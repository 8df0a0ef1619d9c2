import ClusterReads.Proofs.Layer.Auditing
import ClusterReads.Proofs.Layer.Validation
import ClusterReads.Proofs.Text.Mark

/-!
# What subjects tell

The subject of an event is one text, put together from the arguments of a call with marks between them, and
an argument may have such marks itself. Main statement: with a key of identifiers, the subject tells which
key it is, and of which manager it was asked for; a read of one job's tasks is told by it up to the filters
that are not of the job.
-/
namespace ClusterReads

/-! ## Texts of keys -/

namespace JobKey

theorem text_toList (k : JobKey) :
    k.text.toList = (k.role.toList ++ '/' :: k.environment.toList) ++ '/' :: k.name.toList := by
  simp [text]

theorem count_slash_text (k : JobKey) : k.text.toList.count '/' =
    k.role.toList.count '/' + k.environment.toList.count '/' + k.name.toList.count '/' + 2 := by
  rw [text_toList, List.count_append, List.count_append, List.count_cons_self, List.count_cons_self]
  omega

/-- No part of the key has a character that identifiers do not have. -/
theorem WellFormed.notMem {k : JobKey} (h : k.WellFormed) (mark : Char) (hmark : ¬ IdentifierChar mark) :
    mark ∉ k.role.toList ∧ mark ∉ k.environment.toList ∧ mark ∉ k.name.toList := by
  have hpart : ∀ part ∈ k.parts, mark ∉ part.toList := fun part hpart hmem =>
    hmark ((h part hpart).2 mark hmem)
  simpa [parts] using hpart

theorem WellFormed.colon_notMem_text {k : JobKey} (h : k.WellFormed) : ':' ∉ k.text.toList := by
  obtain ⟨hrole, henvironment, hname⟩ := h.notMem ':' (by decide)
  simp [text_toList, hrole, henvironment, hname]

/-- A key of identifiers has its text for itself, whatever other keys are made of. -/
theorem WellFormed.text_inj {k l : JobKey} (hk : k.WellFormed) : k.text = l.text ↔ k = l := by
  constructor
  · intro h
    obtain ⟨hrole, henvironment, hname⟩ := hk.notMem '/' (by decide)
    -- the two marks of the text are those of the other key as well, which leaves none for its parts
    have hcount := congrArg (fun s : String => s.toList.count '/') h
    simp only [count_slash_text, List.count_eq_zero.2 hrole, List.count_eq_zero.2 henvironment,
      List.count_eq_zero.2 hname] at hcount
    have henvironment' : '/' ∉ l.environment.toList := List.count_eq_zero.1 (by omega)
    have hname' : '/' ∉ l.name.toList := List.count_eq_zero.1 (by omega)
    rw [← String.toList_inj, text_toList, text_toList, Text.append_mark_inj_of_right hname hname',
      Text.append_mark_inj_of_right henvironment henvironment', String.toList_inj, String.toList_inj,
      String.toList_inj] at h
    obtain ⟨⟨hrole, henvironment⟩, hname⟩ := h
    cases k
    cases l
    simp_all
  · exact congrArg text

end JobKey

theorem LockKey.text_inj {k l : LockKey} (hk : k.jobKey.WellFormed) : k.text = l.text ↔ k = l := by
  obtain ⟨k⟩ := k
  obtain ⟨l⟩ := l
  have hk : k.WellFormed := hk
  rw [text, text, String.append_right_inj, hk.text_inj, job.injEq]

namespace Call

/-! ## Subjects -/

/-- The last colon of the subject ends the manager, which may have colons as well. -/
theorem subject?_job_inj {k l : JobKey} (hk : k.WellFormed) (hl : l.WellFormed) (manager other : String) :
    (Call.job manager k).subject? = (Call.job other l).subject? ↔ manager = other ∧ k = l := by
  have htext (manager : String) (k : JobKey) :
      (manager ++ ":" ++ k.text).toList = manager.toList ++ ':' :: k.text.toList := by
    simp
  rw [subject?, subject?, Option.some.injEq, ← String.toList_inj, htext, htext,
    Text.append_mark_inj_of_right hk.colon_notMem_text hl.colon_notMem_text, String.toList_inj,
    String.toList_inj, hk.text_inj]

/-- The job whose key a call names, if it names one. -/
def jobKey? : Call → Option JobKey
  | .job _ key => some key
  | .tasks query => query.jobKey?
  | .lock key => some key.jobKey
  | .frameworkId | .jobs _ | .managerIds | .locks | .quotas | .quota _ | .host _ | .hosts | .deploys
  | .deploy _ => none

/-- The validation looks at the keys of jobs that are read. -/
theorem wellFormed_of_flaw?_eq_none {manager : String} {k : JobKey}
    (h : (Call.job manager k).flaw? = none) : k.WellFormed :=
  (flaw?_eq_none_iff _).1 h (.wellFormed k) (by simp [demands])

/-- A call of the same operation with the same subject names the same key, and is the same call unless it
is a query for tasks. -/
theorem eq_of_subject? {c d : Call} {k : JobKey} (hc : c.jobKey? = some k) (hk : k.WellFormed)
    (hd : ∀ manager l, d = .job manager l → l.WellFormed) (hoperation : c.operation = d.operation)
    (hsubject : c.subject? = d.subject?) :
    d.jobKey? = some k ∧ (c.operation ≠ .fetchTasks → c = d) := by
  cases c with
  | job manager =>
    cases hc
    cases d with
    | job other l =>
      obtain ⟨rfl, rfl⟩ := (subject?_job_inj hk (hd other l rfl) manager other).1 hsubject
      exact ⟨rfl, fun _ => rfl⟩
    | _ => cases hoperation
  | lock key =>
    cases hc
    cases d with
    | lock other =>
      obtain rfl := (LockKey.text_inj hk).1 (Option.some.inj hsubject)
      exact ⟨rfl, fun _ => rfl⟩
    | _ => cases hoperation
  | tasks query =>
    cases d with
    | tasks other =>
      refine ⟨?_, fun hne => absurd rfl hne⟩
      have hquery : query.jobKey? = some k := hc
      have htexts : query.jobKey?.map JobKey.text = other.jobKey?.map JobKey.text := hsubject
      rw [hquery, Option.map_some, eq_comm, Option.map_eq_some_iff] at htexts
      obtain ⟨l, hl, htext⟩ := htexts
      obtain rfl := hk.text_inj.1 htext.symm
      exact hl
    | _ => cases hoperation
  | _ => cases hc

end Call

/-! ## Events -/

namespace Auditing

/-- A key of identifiers, and a lock of one, has its text for itself; the text that says which job of which
manager is read tells both, whatever the manager is called. So of a read that names such a key, the event
tells which call it was, among all those that pass the validation or name such keys; of a read of one
job's tasks it tells the job. -/
theorem subjects_unambiguous :
    (∀ k l : JobKey, k.isValid = true → (k.text = l.text ↔ k = l)) ∧
    (∀ (manager other : String) (k l : JobKey), k.isValid = true → l.isValid = true →
      ((Call.job manager k).subject? = (Call.job other l).subject? ↔ manager = other ∧ k = l)) ∧
    (∀ k l : LockKey, k.jobKey.isValid = true → (k.text = l.text ↔ k = l)) ∧
    ∀ (c d : Call) (k : JobKey), c.jobKey? = some k → k.isValid = true →
      (d.flaw? = none ∨ ∃ l, d.jobKey? = some l ∧ l.isValid = true) →
      ∀ (result : StoreResult c.Answer) (result' : StoreResult d.Answer) (now now' : Timestamp),
      (event c result now).operation = (event d result' now').operation →
      (event c result now).subject = (event d result' now').subject →
      d.jobKey? = some k ∧ (c.operation ≠ .fetchTasks → c = d) := by
  simp only [JobKey.isValid_iff]
  refine ⟨fun k l hk => hk.text_inj, fun manager other k l hk hl => Call.subject?_job_inj hk hl _ _,
    fun k l hk => LockKey.text_inj hk, fun c d k hc hk hd result result' now now' hoperation hsubject => ?_⟩
  have hcalled : c.operation = d.operation := by
    rw [← (performs_label c).eq_operation, ← (performs_label d).eq_operation]
    exact hoperation
  refine Call.eq_of_subject? hc hk (fun manager l hjob => ?_) hcalled hsubject
  subst hjob
  rcases hd with hflaw | ⟨l, hl, hvalid⟩
  · exact Call.wellFormed_of_flaw?_eq_none hflaw
  · cases hl
    exact hvalid

/-- A manager whose name goes on like the text of a job, and two reads of one job's tasks. -/
theorem subjects_unambiguous_of_imitating_manager :
    let key : JobKey := ⟨"www-data", "prod", "hello"⟩
    let spaced : JobKey := ⟨"www-data", "prod/hello", "all of them"⟩
    let manager := "CRON:www-data/prod/hello"
    key.isValid = true ∧ key.text ≠ spaced.text ∧
      (Call.job manager key).subject? ≠ (Call.job "CRON" key).subject? ∧
      (LockKey.job key).text ≠ (LockKey.job spaced).text ∧
      (event (.job manager key) (.error (.unavailable "backend offline")) default).subject =
        some "CRON:www-data/prod/hello:www-data/prod/hello" ∧
      (∀ d : Call, d.flaw? = none → d.operation = .fetchJob →
        d.subject? = some "CRON:www-data/prod/hello:www-data/prod/hello" → d = .job manager key) ∧
      (Call.tasks (TaskQuery.jobScoped key).active).jobKey? = some key := by
  intro key spaced manager
  obtain ⟨hkeys, hjobs, hlocks, hevents⟩ := subjects_unambiguous
  have hkey : key.isValid = true := by decide
  refine ⟨hkey, fun h => ?_, fun h => ?_, fun h => ?_, rfl, fun d hd hoperation hsubject => ?_, ?_⟩
  · exact absurd ((hkeys key spaced hkey).1 h) (by decide)
  · exact absurd ((hjobs manager "CRON" key key hkey hkey).1 h).1 (by decide)
  · exact absurd ((hlocks (.job key) (.job spaced) hkey).1 h) (by decide)
  · exact ((hevents (.job manager key) d key rfl hkey (.inl hd) (.error (.unavailable "backend offline"))
      (.error (.unavailable "backend offline")) default default hoperation.symm hsubject.symm).2
      (by decide)).symm
  · exact (hevents (.tasks (.jobScoped key)) (.tasks (TaskQuery.jobScoped key).active) key rfl hkey
      (.inr ⟨key, rfl, hkey⟩) (.ok default) (.ok default) default default rfl rfl).1

/-- The subject of a task read is the job and nothing else: a read of all tasks of a job and one of the
active ones are different calls that pass the validation, and the trail says the same of both. -/
theorem task_reads_of_one_job_leave_one_event :
    let key : JobKey := ⟨"www-data", "prod", "hello"⟩
    let all : Call := .tasks (.jobScoped key)
    let active : Call := .tasks (TaskQuery.jobScoped key).active
    let audited : Store Unit := layer .trail (.ofList Operation.all) (.fixed Ledger.empty.answers)
    key.isValid = true ∧ all.jobKey? = some key ∧ active.jobKey? = some key ∧ all.flaw? = none ∧
      active.flaw? = none ∧ all ≠ active ∧
      (audited all .still ()).env.trail.events =
        [⟨.fetchTasks, some "www-data/prod/hello", .success, Env.still.clock.date⟩] ∧
      (audited active .still ()).env.trail.events =
        [⟨.fetchTasks, some "www-data/prod/hello", .success, Env.still.clock.date⟩] :=
  ⟨by decide, rfl, rfl, by decide, by decide, by decide, rfl, rfl⟩

end Auditing
end ClusterReads
