import Mathlib.Data.List.Sort
import ClusterReads.Proofs.Act
import ClusterReads.Proofs.Ledger.Reads
import ClusterReads.Proofs.Lookup.Managers
import ClusterReads.Record.Sample

/-!
# The jobs of a ledger

A ledger lists its jobs manager by manager. Main statement: after every history of writes the listing
has each job that stands in its place once, by manager and key; a search finds the first of its key
there, and when that job is removed, the next.
-/
namespace ClusterReads

/-- The order of listings: by manager, and for one manager by key. -/
def OwnedBefore (a b : String × JobConfiguration) : Prop :=
  compare a.1 b.1 = .lt ∨ a.1 = b.1 ∧ compare a.2.key b.2.key = .lt

/-- An entry before another one is for another manager or has another key. -/
theorem OwnedBefore.apart {a b : String × JobConfiguration} (h : OwnedBefore a b) :
    ¬ (a.1 = b.1 ∧ a.2.key = b.2.key) := by
  rintro ⟨hmanager, hkey⟩
  simp [OwnedBefore, hmanager, hkey, Std.ReflOrd.compare_self] at h

theorem OwnedBefore.asymm {a b : String × JobConfiguration} (h : OwnedBefore a b) :
    ¬ OwnedBefore b a := by
  rcases h with hab | ⟨hmanager, hab⟩
  · rintro (hba | ⟨hmanager, -⟩)
    · rw [Std.OrientedCmp.gt_of_lt hab] at hba
      cases hba
    · rw [hmanager, Std.ReflOrd.compare_self] at hab
      cases hab
  · rintro (hba | ⟨-, hba⟩)
    · rw [hmanager, Std.ReflOrd.compare_self] at hba
      cases hba
    · rw [Std.OrientedCmp.gt_of_lt hab] at hba
      cases hba

instance : Std.Irrefl OwnedBefore := ⟨fun _ h => h.apart ⟨rfl, rfl⟩⟩

instance : Std.Antisymm OwnedBefore := ⟨fun _ _ hab hba => absurd hba hab.asymm⟩

namespace Ledger

variable {σ : Type}

/-! ## The listing -/

/-- Every job with its manager. -/
def listing (l : Ledger) : List (String × JobConfiguration) :=
  l.managerIds.toList.flatMap fun manager => (l.jobsOf manager).toList.map fun job => (manager, job)

theorem allJobs_eq (l : Ledger) : (Store.fixed l.answers : Store σ).allJobs = pure (.ok l.listing) :=
  Store.jobsOfAll_fixed (fun manager => (l.jobsOf manager).toList) fun _ _ => rfl

/-- A search finds the first job of the key in the listing. -/
theorem findJob_eq (l : Ledger) (key : JobKey) : (Store.fixed l.answers : Store σ).findJob key =
    pure (.ok (l.listing.find? fun entry => entry.2.key = key)) := by
  have hwalk : (Store.fixed l.answers : Store σ).findJob key =
      pure (.ok (l.managerIds.toList.findSome? fun manager =>
        ((l.jobsOf manager).get? key).map fun job => (manager, job))) :=
    Store.findJobIn_fixed (fun manager => (l.jobsOf manager).get? key) fun _ _ => rfl
  rw [hwalk, listing, List.find?_flatMap]
  simp only [List.find?_map, Function.comp_def, Keyed.get?, Std.LawfulEqCmp.compare_eq_iff_eq,
    beq_eq_decide]

theorem mem_listing_iff (l : Ledger) (manager : String) (job : JobConfiguration) :
    (manager, job) ∈ l.listing ↔ l.held? (.job manager job.key) = some job := by
  have hheld : l.held? (.job manager job.key) = some job ↔ job ∈ (l.jobsOf manager).toList :=
    (Keyed.mem_toList_iff _ _).symm
  rw [hheld]
  simp only [listing, List.mem_flatMap, mem_managerIds_iff, List.mem_map, Prod.mk.injEq]
  constructor
  · rintro ⟨m, -, j, hj, rfl, rfl⟩
    exact hj
  · intro h
    exact ⟨manager, List.ne_nil_of_mem h, job, h, rfl, rfl⟩

theorem listing_ascending (l : Ledger) : l.listing.Pairwise OwnedBefore := by
  refine List.pairwise_flatMap.2 ⟨fun manager _ => ?_, ?_⟩
  · exact List.pairwise_map.2 ((l.jobsOf manager).ascending.imp fun h => Or.inr ⟨rfl, h⟩)
  · refine l.managerIds.ascending.imp fun {m m'} h a ha b hb => ?_
    obtain ⟨_, -, rfl⟩ := List.mem_map.1 ha
    obtain ⟨_, -, rfl⟩ := List.mem_map.1 hb
    exact Or.inl h

/-- The removal of a job takes its entry out of the listing and changes no other. -/
theorem listing_removeJob {l : Ledger} {manager : String} {job : JobConfiguration}
    {before rest : List (String × JobConfiguration)} (h : l.listing = before ++ (manager, job) :: rest) :
    (l.removeJob manager job.key).2.listing = before ++ rest := by
  have hascending := l.listing_ascending
  rw [h] at hascending
  obtain ⟨-, hrest, hbefore⟩ := List.pairwise_append.1 hascending
  -- no other entry is for this manager and key
  have hapart : ∀ e ∈ before ++ rest, ¬ (manager = e.1 ∧ job.key = e.2.key) := by
    intro e he hsame
    rcases List.mem_append.1 he with he | he
    · exact (hbefore e he _ List.mem_cons_self).apart ⟨hsame.1.symm, hsame.2.symm⟩
    · exact ((List.pairwise_cons.1 hrest).1 e he).apart hsame
  refine (listing_ascending _).eq_of_mem_iff (hascending.sublist (by simp)) fun ⟨m, j⟩ => ?_
  have hheld : (l.removeJob manager job.key).2.held? (.job m j.key) =
      if manager = m ∧ job.key = j.key then none else l.held? (.job m j.key) :=
    (held?_apply l (.removeJob manager job.key) (.job m j.key)).trans (Effect.on_only _ _ _)
  rw [mem_listing_iff, hheld]
  constructor
  · intro hfound
    split at hfound
    · cases hfound
    · next hother =>
      rw [← mem_listing_iff, h] at hfound
      simp only [List.mem_append, List.mem_cons, Prod.mk.injEq] at hfound ⊢
      rcases hfound with hfound | ⟨rfl, rfl⟩ | hfound
      · exact Or.inl hfound
      · exact absurd ⟨rfl, rfl⟩ hother
      · exact Or.inr hfound
  · intro hmem
    rw [if_neg (hapart _ hmem), ← mem_listing_iff, h]
    exact List.mem_append.2 ((List.mem_append.1 hmem).imp_right (List.mem_cons_of_mem _))

/-- After every history of writes a listing has each job that stands in its place, under its manager,
once, by manager and key. A search finds the first job of its key in the listing. If that job is removed,
only its entry is gone from the listing, and the search finds the next. -/
theorem listing_and_search_agree (history : List Write) (env : Env) (s : σ) :
    let store := fun history => (Store.fixed (after history).answers : Store σ)
    ∃ entries, (store history).allJobs env s = ⟨.ok (.ok entries), env, s⟩ ∧
      entries.Nodup ∧ entries.Pairwise OwnedBefore ∧
      (∀ manager job, (manager, job) ∈ entries ↔ ∃ key, Stands history (.job manager key) job) ∧
      ∀ key, (store history).findJob key env s =
          ⟨.ok (.ok (entries.find? fun entry => entry.2.key = key)), env, s⟩ ∧
        ∀ manager job, (store history).findJob key env s = ⟨.ok (.ok (some (manager, job))), env, s⟩ →
          ((after history).removeJob manager key).1 = true ∧
          ∃ before rest, entries = before ++ (manager, job) :: rest ∧ job.key = key ∧
            (∀ earlier ∈ before, earlier.2.key ≠ key) ∧
            (store (history ++ [.removeJob manager key])).allJobs env s =
              ⟨.ok (.ok (before ++ rest)), env, s⟩ ∧
            (store (history ++ [.removeJob manager key])).findJob key env s =
              ⟨.ok (.ok (rest.find? fun entry => entry.2.key = key)), env, s⟩ := by
  intro store
  have hfind : ∀ history key, (store history).findJob key env s =
      ⟨.ok (.ok ((after history).listing.find? fun entry => entry.2.key = key)), env, s⟩ := by
    intro history key
    rw [findJob_eq]
    rfl
  refine ⟨(after history).listing, by rw [allJobs_eq]; rfl, (listing_ascending _).nodup,
    listing_ascending _, fun manager job => ?_, fun key => ⟨hfind history key, ?_⟩⟩
  · rw [mem_listing_iff, held?_after_eq_some_iff]
    constructor
    · exact fun h => ⟨_, h⟩
    · rintro ⟨key, h⟩
      obtain rfl : job.key = key := h.fits
      exact h
  · intro manager job hfound
    rw [hfind] at hfound
    simp only [Step.mk.injEq, Except.ok.injEq, and_true] at hfound
    obtain ⟨hkey, before, rest, hsplit, hbefore⟩ := List.find?_eq_some_iff_append.1 hfound
    obtain rfl : job.key = key := by simpa using hkey
    have hbefore : ∀ earlier ∈ before, earlier.2.key ≠ job.key := by simpa using hbefore
    have hremoved : (after (history ++ [.removeJob manager job.key])).listing = before ++ rest := by
      rw [after_snoc]
      exact listing_removeJob hsplit
    refine ⟨?_, before, rest, hsplit, rfl, hbefore, ?_, ?_⟩
    · have hheld := (mem_listing_iff _ _ _).1 (hsplit ▸ List.mem_append_right before List.mem_cons_self)
      exact (Keyed.contains_iff_exists _ _).2 ⟨job, hheld⟩
    · rw [allJobs_eq, hremoved]
      rfl
    · have hnone : before.find? (fun entry => entry.2.key = job.key) = none :=
        List.find?_eq_none.2 fun earlier hearlier => by simpa using hbefore earlier hearlier
      rw [hfind, hremoved, List.find?_append, hnone, Option.none_or]

/-- A job that two managers own is found with the first of them, and once it is removed there, with the
other. -/
theorem listing_and_search_agree_of_two_owners :
    let job : JobConfiguration := .sample "www-data" "prod" "hello"
    let cron : JobConfiguration := job.withCronSchedule "0 2 * * *"
    let history : List Write := [.saveJob immediateManager job, .saveJob cronManager cron]
    let store := fun history => (Store.fixed (after history).answers : Store Unit)
    (store history).findJob job.key .still () =
        ⟨.ok (.ok (some (cronManager, cron))), .still, ()⟩ ∧
      (store (history ++ [.removeJob cronManager job.key])).findJob job.key .still () =
        ⟨.ok (.ok (some (immediateManager, job))), .still, ()⟩ := by
  intro job cron history store
  have hids : (after history).managerIds.toList = [cronManager, immediateManager] := by decide +kernel
  have hlisting : (after history).listing = [(cronManager, cron), (immediateManager, job)] := by
    have hafter : after history =
        (Ledger.empty.saveJob immediateManager job).saveJob cronManager cron := rfl
    have hnone : ∀ m, Ledger.empty.jobsOf m = .empty := fun _ => rfl
    rw [listing, hids, hafter]
    simp [jobsOf_saveJob, hnone, Keyed.place, immediateManager, cronManager]
  obtain ⟨entries, hall, -, -, -, hsearch⟩ := listing_and_search_agree history .still ()
  obtain rfl : entries = [(cronManager, cron), (immediateManager, job)] := by
    rw [allJobs_eq, hlisting] at hall
    exact (Except.ok.inj (Except.ok.inj (Step.mk.inj hall).1)).symm
  have hkey : cron.key = job.key := rfl
  obtain ⟨hfirst, hnext⟩ := hsearch job.key
  have hfound : (store history).findJob job.key .still () =
      ⟨.ok (.ok (some (cronManager, cron))), .still, ()⟩ := hfirst.trans (by simp [hkey])
  obtain ⟨-, before, rest, hsplit, -, hbefore, -, hthen⟩ := hnext cronManager cron hfound
  refine ⟨hfound, hthen.trans ?_⟩
  cases before with
  | nil =>
    cases hsplit
    simp
  | cons entry before =>
    obtain ⟨rfl, -⟩ := List.cons.inj hsplit
    exact absurd hkey (hbefore _ List.mem_cons_self)

end Ledger
end ClusterReads
