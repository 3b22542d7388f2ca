/-
Settings that a project can have: the defaults, and what becomes of such settings when a mapping is laid
over them that is not refused. The patterns of a mapping are tried when it is laid over, so whatever
settings a run is given, it can read every naming rule.
-/

import Concord.Pattern.Reader
import Concord.Proofs.Naming.Findings
import Concord.Settings.Overlay
import Mathlib

namespace Concord.Settings

/-- The defaults, or the outcome of laying a mapping over accepted settings. -/
inductive IsAccepted (reading : Pattern.Reading) : Settings → Prop
  | default : IsAccepted reading {}
  | overlay {base settings : Settings} {raw : Value} (accepted : IsAccepted reading base)
      (success : base.overlay reading raw = .ok settings) : IsAccepted reading settings

/-! ### Naming rules -/

-- The evaluation goes down into the forms character by character.
set_option maxRecDepth 4000 in
/-- No default rule calls a character by its name, so it is nothing to them which names are known. -/
theorem isOk_readRule_defaultNamingRules (names : Pattern.CharacterNames) :
    (defaultNamingRules.all fun rule => (Naming.readRule (Pattern.read names) rule).isOk) = true := by
  cbv

theorem areReadable_defaultNamingRules (names : Pattern.CharacterNames) :
    Naming.AreReadable (Pattern.read names) defaultNamingRules := by
  intro rule member
  have isOk := List.all_eq_true.1 (isOk_readRule_defaultNamingRules names) rule member
  cases read : Naming.readRule (Pattern.read names) rule with
  | ok pair => exact ⟨pair, rfl⟩
  | error bad => simp [read, Except.isOk, Except.toBool] at isOk

variable {reading : Pattern.Reading}

theorem areReadable_of_checkRules {rules : List NamingRule}
    (success : checkRules reading rules = .ok ()) : Naming.AreReadable reading rules := by
  induction rules with
  | nil => exact fun _ absent => absurd absent List.not_mem_nil
  | cons rule rules inductionHypothesis =>
    rw [checkRules, List.forM] at success
    cases read : Naming.readRule reading rule with
    | error bad => simp [read, Except.map, bind, Except.bind] at success
    | ok pair =>
      rw [read] at success
      exact List.forall_mem_cons.2 ⟨⟨pair, read⟩, inductionHypothesis success⟩

/-- The rules of settings with a mapping laid over them are those the mapping brings, or the rules that
held before. -/
theorem namingRules_put (base : Settings) (raw : Value) :
    (base.put raw).namingRules = broughtRules raw ∨
      (base.put raw).namingRules = base.namingRules := by
  cases brought : (raw.field? "naming_pairs").bind rulesOf? with
  | some rules => exact .inl (by simp only [put, broughtRules, entryOr, brought, Option.getD_some])
  | none => exact .inr (by simp only [put, entryOr, brought, Option.getD_none])

theorem areReadable_overlay {base settings : Settings} {raw : Value}
    (readable : Naming.AreReadable reading base.namingRules)
    (success : base.overlay reading raw = .ok settings) :
    Naming.AreReadable reading settings.namingRules := by
  unfold overlay at success
  cases met : Schema.settings.check raw with
  | error violation => simp [met, Except.mapError, bind, Except.bind] at success
  | ok checked =>
    cases tried : checkRules reading (broughtRules raw) with
    | error bad => simp [met, tried, Except.mapError, bind, Except.bind] at success
    | ok done =>
      simp only [met, tried, Except.mapError, bind, Except.bind, pure, Except.pure,
        Except.ok.injEq] at success
      subst success
      rcases base.namingRules_put raw with same | same
      · exact same ▸ areReadable_of_checkRules tried
      · exact same ▸ readable

/-- Accepted settings have naming rules that can be read, if the default ones can. -/
theorem IsAccepted.areReadable (readable : Naming.AreReadable reading defaultNamingRules)
    {settings : Settings} (accepted : settings.IsAccepted reading) :
    Naming.AreReadable reading settings.namingRules := by
  induction accepted with
  | default => exact readable
  | overlay _ success inductionHypothesis => exact areReadable_overlay inductionHypothesis success

end Concord.Settings
