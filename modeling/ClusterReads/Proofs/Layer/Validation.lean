import Mathlib.Data.List.TakeWhile
import ClusterReads.Layer.Validation
import ClusterReads.Proofs.Act
import ClusterReads.Proofs.Query
import ClusterReads.Proofs.Run

/-!
# What validation refuses

A call asks its arguments for several things, one after another: that a text says something, and that a
key is made of identifiers. Main statement: validation refuses a call for the first of these that is not
met, and then the store under it is not called; every other call it passes on once, as it is.
-/
namespace ClusterReads

variable {σ ρ α : Type}

/-! ## Texts and keys -/

namespace Text

/-- What is left of a text without the white space at its ends. -/
def trim (s : String) : List Char :=
  (trimStart (trimStart s.toList).reverse).reverse

theorem trim_eq_nil_iff (s : String) : trim s = [] ↔ isBlank s = true := by
  rw [trim, List.reverse_eq_nil_iff, trimStart, List.dropWhile_eq_nil_iff, isBlank_iff]
  simp only [List.mem_reverse]
  constructor
  · intro h c hc
    -- what leads the text is white anyway
    rw [← List.takeWhile_append_dropWhile (p := isWhite) (l := s.toList), List.mem_append] at hc
    rcases hc with hc | hc
    · exact List.mem_takeWhile_imp hc
    · exact h c hc
  · intro h c hc
    exact h c ((List.dropWhile_sublist isWhite).mem hc)

end Text

/-- A letter or digit of ASCII, an underscore, a hyphen or a full stop. -/
def IdentifierChar (c : Char) : Prop :=
  'A' ≤ c ∧ c ≤ 'Z' ∨ 'a' ≤ c ∧ c ≤ 'z' ∨ '0' ≤ c ∧ c ≤ '9' ∨ c = '_' ∨ c = '-' ∨ c = '.'

theorem isIdentifierChar_iff (c : Char) : isIdentifierChar c = true ↔ IdentifierChar c := by
  unfold isIdentifierChar IdentifierChar
  delta Char.isAlphanum Char.isAlpha Char.isUpper Char.isLower Char.isDigit
  simp only [Bool.or_eq_true, Bool.and_eq_true, decide_eq_true_eq, Char.le_def, ge_iff_le, or_assoc]

instance : DecidablePred IdentifierChar := fun c =>
  decidable_of_iff _ (isIdentifierChar_iff c)

/-- No white space is part of an identifier. -/
theorem IdentifierChar.not_isWhite {c : Char} (h : IdentifierChar c) : Text.isWhite c = false := by
  have hbounds : 45 ≤ c.toNat ∧ c.toNat ≤ 122 := by
    simp only [IdentifierChar, Char.le_def, UInt32.le_iff_toNat_le] at h
    have hnat : c.toNat = c.val.toNat := rfl
    rcases h with h | h | h | rfl | rfl | rfl
    · change 65 ≤ c.val.toNat ∧ c.val.toNat ≤ 90 at h
      omega
    · change 97 ≤ c.val.toNat ∧ c.val.toNat ≤ 122 at h
      omega
    · change 48 ≤ c.val.toNat ∧ c.val.toNat ≤ 57 at h
      omega
    all_goals decide
  simp only [Text.isWhite, Text.inRanges, Text.whiteRanges, List.any_cons, List.any_nil, Bool.or_false,
    Bool.or_eq_false_iff, Bool.and_eq_false_imp, decide_eq_true_eq, decide_eq_false_iff_not]
  omega

namespace JobKey

def parts (k : JobKey) : List String :=
  [k.role, k.environment, k.name]

/-- No part is empty or has a character that identifiers do not have. -/
def WellFormed (k : JobKey) : Prop :=
  ∀ part ∈ k.parts, part ≠ "" ∧ ∀ c ∈ part.toList, IdentifierChar c

theorem isValid_iff (k : JobKey) : k.isValid = true ↔ k.WellFormed := by
  simp [isValid, WellFormed, parts, isIdentifier, isIdentifierChar_iff, and_assoc]

theorem WellFormed.trim_ne_nil {k : JobKey} (h : k.WellFormed) {part : String} (hpart : part ∈ k.parts) :
    Text.trim part ≠ [] := by
  obtain ⟨hne, hchars⟩ := h part hpart
  rw [ne_eq, Text.trim_eq_nil_iff, Text.isBlank_iff]
  intro hwhite
  cases hlist : part.toList with
  | nil => exact hne (String.toList_inj.1 hlist)
  | cons c rest =>
    have hc : c ∈ part.toList := by simp [hlist]
    have hblack := (hchars c hc).not_isWhite
    rw [hwhite c hc] at hblack
    cases hblack

theorem isValid_eq_false_of_blank {k : JobKey} (h : ∃ part ∈ k.parts, Text.trim part = []) :
    k.isValid = false := by
  obtain ⟨part, hpart, hblank⟩ := h
  rw [← Bool.not_eq_true, isValid_iff]
  exact fun hk => hk.trim_ne_nil hpart hblank

end JobKey

/-! ## What a call asks for -/

/-- One of the things that a call asks of its arguments. -/
inductive Demand where
  /-- The text of this name says something. -/
  | speaking (field value : String)
  | wellFormed (key : JobKey)

namespace Demand

def Met : Demand → Prop
  | .speaking _ value => Text.trim value ≠ []
  | .wellFormed key => key.WellFormed

/-- What is wrong if it is not met. -/
def flaw : Demand → Flaw
  | .speaking field _ => .blank field
  | .wellFormed key => .malformedKey key

/-- The check of a demand. -/
def flaw? : Demand → Option Flaw
  | .speaking field value => Flaw.ofText? field value
  | .wellFormed key => Flaw.ofKey? key

theorem flaw?_eq_none_iff (d : Demand) : d.flaw? = none ↔ d.Met := by
  cases d with
  | speaking field value => simp [flaw?, Flaw.ofText?, Met, Text.trim_eq_nil_iff]
  | wellFormed key => simp [flaw?, Flaw.ofKey?, Met, ← JobKey.isValid_iff]

theorem flaw?_of_not_met {d : Demand} (h : ¬ d.Met) : d.flaw? = some d.flaw := by
  cases d with
  | speaking field value =>
    rw [Met, not_not, Text.trim_eq_nil_iff] at h
    simp [flaw?, Flaw.ofText?, flaw, h]
  | wellFormed key =>
    rw [Met, ← JobKey.isValid_iff] at h
    simp [flaw?, Flaw.ofKey?, flaw, h]

theorem findSome?_speaking (o : Option String) (field : String) :
    (o.toList.map (.speaking field)).findSome? flaw? = o.bind (Flaw.ofText? field) := by
  cases o <;> simp [flaw?]

end Demand

/-- Role, environment and job name, as far as they are set, and then the hosts in their order. -/
def TaskQuery.demands (q : TaskQuery) : List Demand :=
  q.role.toList.map (.speaking "role") ++ q.environment.toList.map (.speaking "environment") ++
    q.jobName.toList.map (.speaking "job_name") ++
    (q.slaveHosts.elim [] fun hosts => hosts.toList).map (.speaking "slave_host")

namespace Call

/-- What a call asks for, in the order in which it is looked at. -/
def demands : Call → List Demand
  | .jobs manager => [.speaking "manager_id" manager]
  | .job manager key => [.speaking "manager_id" manager, .wellFormed key]
  | .tasks query => query.demands
  | .lock (.job key) => [.wellFormed key]
  | .quota role => [.speaking "role" role]
  | .host name => [.speaking "host" name]
  | .deploy id => [.speaking "deploy_id" id]
  | .frameworkId | .managerIds | .locks | .quotas | .hosts | .deploys => []

/-- The demand is not met, and all those before it are. -/
def FirstUnmet (c : Call) (d : Demand) : Prop :=
  ∃ before after, c.demands = before ++ d :: after ∧ (∀ earlier ∈ before, earlier.Met) ∧ ¬ d.Met

end Call

theorem TaskQuery.flaw?_eq_findSome? (q : TaskQuery) : q.flaw? = q.demands.findSome? Demand.flaw? := by
  have hhosts : ((q.slaveHosts.elim [] fun hosts => hosts.toList).map
      (.speaking "slave_host")).findSome? Demand.flaw? =
      q.slaveHosts.bind fun hosts => hosts.toList.findSome? (Flaw.ofText? "slave_host") := by
    cases q.slaveHosts <;> simp [List.findSome?_map, Function.comp_def, Demand.flaw?]
  simp only [TaskQuery.flaw?, demands, List.findSome?_append, Demand.findSome?_speaking, hhosts,
    Option.or_assoc, Option.orElse_eq_orElse, Option.orElse_eq_or]

/-- The flaw of a call is found by checking what it asks for in turn. -/
theorem Call.flaw?_eq_findSome? (c : Call) : c.flaw? = c.demands.findSome? Demand.flaw? := by
  cases c with
  | tasks q => exact q.flaw?_eq_findSome?
  | job manager key =>
    change (Flaw.ofText? "manager_id" manager <|> Flaw.ofKey? key) =
      ([.speaking "manager_id" manager] ++ [.wellFormed key] : List Demand).findSome? Demand.flaw?
    rw [List.findSome?_append]
    simp [Demand.flaw?]
  | lock key =>
    cases key
    simp [flaw?, demands, Demand.flaw?, LockKey.jobKey]
  | _ => simp [flaw?, demands, Demand.flaw?]

theorem Call.flaw?_eq_none_iff (c : Call) : c.flaw? = none ↔ ∀ d ∈ c.demands, d.Met := by
  simp only [flaw?_eq_findSome?, List.findSome?_eq_none_iff, Demand.flaw?_eq_none_iff]

theorem Call.FirstUnmet.flaw?_eq {c : Call} {d : Demand} (h : c.FirstUnmet d) :
    c.flaw? = some d.flaw := by
  obtain ⟨before, after, hsplit, hbefore, hd⟩ := h
  rw [flaw?_eq_findSome?, List.findSome?_eq_some_iff]
  refine ⟨before, d, after, hsplit, Demand.flaw?_of_not_met hd, fun earlier hearlier => ?_⟩
  exact (Demand.flaw?_eq_none_iff earlier).2 (hbefore earlier hearlier)

/-! ## Refusals -/

/-- The end of a call with a flaw: an error that says what is wrong, and an event in the journal. -/
def Flaw.refusal (f : Flaw) : Act σ (StoreResult α) := fun env s =>
  ⟨.ok (.error (.invalidArgument f.message)),
    { env with journal := env.journal.write .debug .validation f.note [] }, s⟩

namespace Validation

theorem layer_of_flaw (inner : Store ρ) {c : Call} {f : Flaw} (h : c.flaw? = some f) :
    layer inner c = f.refusal := by
  rw [layer, h]
  rfl

theorem layer_of_flaw?_eq_none (inner : Store ρ) {c : Call} (h : c.flaw? = none) :
    layer inner c = inner c := by
  rw [layer, h]

end Validation

/-- A query for one job asks for what its key and its hosts have to say. -/
theorem TaskQuery.demands_met_iff_of_jobKey? {q : TaskQuery} {key : JobKey} (h : q.jobKey? = some key) :
    (∀ d ∈ q.demands, d.Met) ↔ (∀ part ∈ key.parts, Text.trim part ≠ []) ∧
      ∀ hosts, q.slaveHosts = some hosts → ∀ host ∈ hosts.toList, Text.trim host ≠ [] := by
  obtain ⟨hrole, henvironment, hname⟩ := (q.jobKey?_eq_some_iff key).1 h
  cases hhosts : q.slaveHosts <;>
    simp [demands, hrole, henvironment, hname, hhosts, JobKey.parts, Demand.Met, or_imp, forall_and,
      and_assoc]

/-- A call is refused for the first thing that it asks for in vain, without a call of the store under
the validation. If it asks for nothing in vain, it is passed on once, and ends as it does there. A query
for a job with a well-formed key, with no host or none that is blank, asks for nothing in vain. -/
theorem Validation.refuses_for_first_unmet (inner : Store ρ) :
    (∀ (c : Call) (d : Demand), c.FirstUnmet d → ∀ env (s : List Call × ρ),
      layer inner.noted c env s = ⟨.ok (.error (.invalidArgument d.flaw.message)),
        { env with journal := env.journal.write .debug .validation d.flaw.note [] }, s⟩) ∧
    (∀ c : Call, (∀ d ∈ c.demands, d.Met) → ∀ env (calls : List Call) (s : ρ),
      layer inner.noted c env (calls, s) = ⟨(inner c env s).outcome, (inner c env s).env,
        (calls ++ [c], (inner c env s).state)⟩) ∧
    ∀ (q : TaskQuery) (key : JobKey), q.jobKey? = some key → key.WellFormed →
      (∀ hosts, q.slaveHosts = some hosts → ∀ host ∈ hosts.toList, Text.trim host ≠ []) →
      layer inner.noted (.tasks q) = inner.noted (.tasks q) := by
  refine ⟨fun c d hd env s => ?_, fun c hmet env calls s => ?_, fun q key hq hkey hhosts => ?_⟩
  · rw [layer_of_flaw inner.noted hd.flaw?_eq]
    rfl
  · rw [layer_of_flaw?_eq_none inner.noted (c.flaw?_eq_none_iff.2 hmet), Store.noted_run]
  · have hmet : ∀ d ∈ (Call.tasks q).demands, d.Met :=
      (TaskQuery.demands_met_iff_of_jobKey? hq).2 ⟨fun part => hkey.trim_ne_nil, hhosts⟩
    exact layer_of_flaw?_eq_none inner.noted ((Call.flaw?_eq_none_iff _).2 hmet)

/-- The manager is looked at before the key; a key with a blank in it is refused; jobs and tasks are
asked for under names that say something. -/
theorem Validation.refuses_for_first_unmet_of_blank_and_spaced :
    let inner : Store Unit := .failing (.unavailable "backend offline")
    let spaced : JobKey := ⟨"www data", "prod", "hello"⟩
    let key : JobKey := ⟨"www-data", "prod", "hello"⟩
    (Call.job "\u3000" spaced).FirstUnmet (.speaking "manager_id" "\u3000") ∧
      (layer inner.noted (.job "\u3000" spaced) .still ([], ())).outcome =
        .ok (.error (.invalidArgument "manager_id 不能为空")) ∧
      (Call.job "CRON" spaced).FirstUnmet (.wellFormed spaced) ∧
      (layer inner.noted (.job "CRON" spaced) .still ([], ())).outcome =
        .ok (.error (.invalidArgument "非法的作业键: www data/prod/hello")) ∧
      (∀ d ∈ (Call.jobs "CRON").demands, d.Met) ∧
      (layer inner.noted (.jobs "CRON") .still ([], ())).state = ([.jobs "CRON"], ()) ∧
      (TaskQuery.jobScoped key).jobKey? = some key ∧ key.WellFormed ∧
      layer inner.noted (.tasks (.jobScoped key)) = inner.noted (.tasks (.jobScoped key)) := by
  intro inner spaced key
  obtain ⟨hrefuses, hpasses, haccepts⟩ := refuses_for_first_unmet inner
  have hcron : (Demand.speaking "manager_id" "CRON").Met := (by decide : Text.trim "CRON" ≠ [])
  have hspaced : ¬ spaced.WellFormed := by
    rw [← JobKey.isValid_iff]
    decide
  have hkey : key.WellFormed := by
    rw [← JobKey.isValid_iff]
    decide
  have hblank : (Call.job "\u3000" spaced).FirstUnmet (.speaking "manager_id" "\u3000") :=
    ⟨[], [.wellFormed spaced], rfl, by simp, (by decide : ¬ Text.trim "\u3000" ≠ [])⟩
  have hfirst : (Call.job "CRON" spaced).FirstUnmet (.wellFormed spaced) :=
    ⟨[.speaking "manager_id" "CRON"], [], rfl, by simpa using hcron, hspaced⟩
  have hmet : ∀ d ∈ (Call.jobs "CRON").demands, d.Met := by simpa [Call.demands] using hcron
  refine ⟨hblank, ?_, hfirst, ?_, hmet, ?_, rfl, hkey, ?_⟩
  · rw [hrefuses _ _ hblank]
    rfl
  · rw [hrefuses _ _ hfirst]
    rfl
  · rw [hpasses _ hmet]
    rfl
  · exact haccepts _ _ rfl hkey fun hosts hhosts => by cases hhosts

end ClusterReads
