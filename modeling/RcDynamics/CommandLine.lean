import Mathlib.Init

/-!
# Command lines

A program reads its arguments from left to right. A word that it knows changes its settings, alone
or with the argument after it; a word that asks for help, or that it does not know, or whose
argument is missing, ends the reading. What a program accepts is described once for all tables of
words: the settings of a sequence of known words, each followed by the argument it takes.
-/

namespace CommandLine

variable {σ : Type}

/-- What a word is to a program. -/
inductive Flag (σ : Type) where
  /-- It changes the settings. -/
  | switch (set : σ → σ)
  /-- It changes the settings by the next argument. -/
  | value (set : String → σ → σ)
  /-- It asks for help. -/
  | help

/-- A word keeps what holds of the settings. -/
def Flag.Keeps (P : σ → Prop) : Flag σ → Prop
  | .switch set => ∀ settings, P settings → P (set settings)
  | .value set => ∀ argument settings, P settings → P (set argument settings)
  | .help => True

/-- What the reading of the arguments comes to. -/
inductive Parsed (σ : Type) where
  | settings (settings : σ)
  /-- The usage is printed, because it was asked for or because of an error. -/
  | usage (asked : Bool)
deriving DecidableEq

/-- The loop over the arguments. -/
def parse (flag : String → Option (Flag σ)) : σ → List String → Parsed σ
  | settings, [] => .settings settings
  | settings, word :: words =>
    match flag word with
    | some (.switch set) => parse flag (set settings) words
    | some (.value set) =>
      match words with
      | [] => .usage false
      | argument :: words => parse flag (set argument settings) words
    | some .help => .usage true
    | none => .usage false

/-- From some settings the words lead to others. -/
inductive Sets (flag : String → Option (Flag σ)) : σ → List String → σ → Prop where
  | none (settings : σ) : Sets flag settings [] settings
  | switch {settings others : σ} {word : String} {words : List String} {set : σ → σ}
      (known : flag word = some (.switch set)) (rest : Sets flag (set settings) words others) :
      Sets flag settings (word :: words) others
  | value {settings others : σ} {word argument : String} {words : List String}
      {set : String → σ → σ} (known : flag word = some (.value set))
      (rest : Sets flag (set argument settings) words others) :
      Sets flag settings (word :: argument :: words) others

section Tables

variable {flag : String → Option (Flag σ)}

/-- What known words lead to is what reading them leads to. -/
theorem Sets.parse_append {settings others : σ} {words : List String}
    (sets : Sets flag settings words others) (more : List String) :
    parse flag settings (words ++ more) = parse flag others more := by
  induction sets with
  | none settings => rfl
  | switch known rest ih =>
    rw [List.cons_append, parse, known]
    exact ih
  | value known rest ih =>
    rw [List.cons_append, List.cons_append, parse, known]
    exact ih

/-- The arguments are accepted exactly when they are known words with their arguments. -/
theorem parse_eq_settings_iff {settings others : σ} {words : List String} :
    parse flag settings words = .settings others ↔ Sets flag settings words others := by
  constructor
  · intro accepted
    fun_induction parse flag settings words with
    | case1 =>
      cases accepted
      exact .none _
    | case2 settings word words set known ih => exact .switch known (ih accepted)
    | case4 settings word set known argument words ih => exact .value known (ih accepted)
    | _ => cases accepted
  · intro sets
    have read := sets.parse_append []
    rwa [List.append_nil] at read

/-- They ask for help exactly when known words are followed by one that does. -/
theorem parse_eq_help_iff {settings : σ} {words : List String} :
    parse flag settings words = .usage true ↔
      ∃ before word after others, words = before ++ word :: after ∧
        Sets flag settings before others ∧ flag word = some .help := by
  constructor
  · intro asked
    fun_induction parse flag settings words with
    | case2 settings word words set known ih =>
      obtain ⟨before, help, after, others, rfl, sets, known'⟩ := ih asked
      exact ⟨word :: before, help, after, others, rfl, .switch known sets, known'⟩
    | case4 settings word set known argument words ih =>
      obtain ⟨before, help, after, others, rfl, sets, known'⟩ := ih asked
      exact ⟨word :: argument :: before, help, after, others, rfl, .value known sets, known'⟩
    | case5 settings word words known =>
      exact ⟨[], word, words, settings, rfl, .none settings, known⟩
    | _ => cases asked
  · rintro ⟨before, word, after, others, rfl, sets, known⟩
    rw [sets.parse_append, parse, known]

/-- What all known words keep holds of all settings that are accepted. -/
theorem Sets.keeps {P : σ → Prop} (each : ∀ word, ∀ known ∈ flag word, known.Keeps P)
    {settings others : σ} {words : List String} (sets : Sets flag settings words others)
    (initially : P settings) : P others := by
  induction sets with
  | none settings => exact initially
  | switch known _ ih => exact ih (each _ _ known _ initially)
  | value known _ ih => exact ih (each _ _ known _ _ initially)

/-- What holds of the words of two parts of a table holds of those of the table. -/
theorem forall_mem_ite {τ : Type} {c : Prop} [Decidable c] {first second : Option τ}
    {P : τ → Prop} (early : ∀ x ∈ first, P x) (late : ∀ x ∈ second, P x) :
    ∀ x ∈ if c then first else second, P x := by
  split
  · exact early
  · exact late

end Tables

end CommandLine
