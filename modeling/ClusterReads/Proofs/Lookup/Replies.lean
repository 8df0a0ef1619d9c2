import ClusterReads.Proofs.Act
import ClusterReads.Proofs.Lookup.Managers
import ClusterReads.Proofs.Run
import ClusterReads.Record.Sample

/-!
# What a walk over managers is told

A walk asks a store one thing after another, and how it goes on depends on the reply. Main statement: a
search asks the managers by name until one of them replies anything but that it has no such job, and
comes to that reply; a listing asks them until one fails, and comes to that error or else to all that
they have. Neither asks any manager after that.
-/
namespace ClusterReads

variable {σ α : Type}

/-! ## Replies -/

/-- A call, and what a store replied to it. -/
structure Reply where
  call : Call
  result : StoreResult call.Answer

namespace Reply

/-- A manager has no job of the key. -/
def lacks (key : JobKey) (manager : String) : Reply :=
  ⟨.job manager key, .ok none⟩

/-- A manager has these jobs. -/
def owns (entry : String × List JobConfiguration) : Reply :=
  ⟨.jobs entry.1, .ok entry.2⟩

end Reply

namespace Store

/-- Every call is answered, be it with an error. -/
def Responds (store : Store σ) : Prop :=
  ∀ c env s, ∃ result later s', store c env s = ⟨.ok result, later, s'⟩

theorem fixed_responds (answers : Answers) : (fixed answers : Store σ).Responds :=
  fun c env s => ⟨answers c, env, s, rfl⟩

/-- Asked one call after another, the store gives these replies and is led from one state to another. -/
inductive Replies (store : Store σ) : List Reply → Env → σ → Env → σ → Prop
  | none {env : Env} {s : σ} : Replies store [] env s env s
  | more {r : Reply} {rest : List Reply} {env between later : Env} {s s' s'' : σ}
    (hfirst : store r.call env s = ⟨.ok r.result, between, s'⟩)
    (hrest : Replies store rest between s' later s'') : Replies store (r :: rest) env s later s''

namespace Replies

variable {store : Store σ} {env later : Env} {s s' : σ}

theorem one {r : Reply} (h : store r.call env s = ⟨.ok r.result, later, s'⟩) :
    store.Replies [r] env s later s' :=
  .more h .none

/-- A fixed store gives its answers as replies and stays as it is. -/
theorem fixed {answers : Answers} {replies : List Reply} (env : Env) (s : σ)
    (h : ∀ r ∈ replies, answers r.call = r.result) :
    (Store.fixed answers).Replies replies env s env s := by
  induction replies with
  | nil => exact .none
  | cons r rest ih =>
    rw [List.forall_mem_cons] at h
    have hfirst : (Store.fixed answers : Store σ) r.call env s = ⟨.ok r.result, env, s⟩ := by
      rw [← h.1]
      rfl
    exact .more hfirst (ih h.2)

/-- The calls are noted in their order. -/
theorem noted {replies : List Reply} (h : store.Replies replies env s later s') (calls : List Call) :
    store.noted.Replies replies env (calls, s) later (calls ++ replies.map Reply.call, s') := by
  induction h generalizing calls with
  | none => simpa using Replies.none
  | @more r rest env between later s s' s'' hfirst hrest ih =>
    have hnoted : store.noted r.call env (calls, s) = ⟨.ok r.result, between, (calls ++ [r.call], s')⟩ := by
      rw [noted_run, hfirst]
    simpa using Replies.more hnoted (ih (calls ++ [r.call]))

end Replies

/-! ## Walks -/

/-- The replies to a walk that first asks which managers there are. -/
inductive Walk (among : List String → List Reply → StoreResult α → Prop) :
    List Reply → StoreResult α → Prop
  | unknown (e : StoreError) : Walk among [⟨.managerIds, .error e⟩] (.error e)
  | known (ids : SortedSet String) {replies : List Reply} {result : StoreResult α}
    (h : among ids.toList replies result) : Walk among (⟨.managerIds, .ok ids⟩ :: replies) result

/-- The replies to a search among managers, and what it comes to: the first job found or the first error. -/
inductive Search (key : JobKey) (managers : List String) :
    List Reply → StoreResult (Option (String × JobConfiguration)) → Prop
  | missing : Search key managers (managers.map (Reply.lacks key)) (.ok none)
  | found (before : List String) {after : List String} {m : String}
    (h : managers = before ++ m :: after) (job : JobConfiguration) :
    Search key managers (before.map (Reply.lacks key) ++ [⟨.job m key, .ok (some job)⟩])
      (.ok (some (m, job)))
  | failed (before : List String) {after : List String} {m : String}
    (h : managers = before ++ m :: after) (e : StoreError) :
    Search key managers (before.map (Reply.lacks key) ++ [⟨.job m key, .error e⟩]) (.error e)

/-- The replies to a listing of managers, and what it comes to: the jobs of all or the first error. -/
inductive Listing (managers : List String) :
    List Reply → StoreResult (List (String × JobConfiguration)) → Prop
  | complete (owned : List (String × List JobConfiguration)) (h : managers = owned.map Prod.fst) :
    Listing managers (owned.map Reply.owns)
      (.ok (owned.flatMap fun entry => entry.2.map fun job => (entry.1, job)))
  | failed (owned : List (String × List JobConfiguration)) {after : List String} {m : String}
    (h : managers = owned.map Prod.fst ++ m :: after) (e : StoreError) :
    Listing managers (owned.map Reply.owns ++ [⟨.jobs m, .error e⟩]) (.error e)

section Runs

variable {store : Store σ} {key : JobKey} {env between later : Env} {s t s' : σ}

/-! ## Searches -/

theorem findJobIn_of_error {m : String} {e : StoreError}
    (h : store (.job m key) env s = ⟨.ok (.error e), later, s'⟩) (rest : List String) :
    store.findJobIn key (m :: rest) env s = ⟨.ok (.error e), later, s'⟩ := by
  rw [findJobIn, Act.bind_run, h]
  rfl

theorem findJobIn_of_some {m : String} {job : JobConfiguration}
    (h : store (.job m key) env s = ⟨.ok (.ok (some job)), later, s'⟩) (rest : List String) :
    store.findJobIn key (m :: rest) env s = ⟨.ok (.ok (some (m, job))), later, s'⟩ := by
  rw [findJobIn, Act.bind_run, h]
  rfl

theorem findJobIn_of_none {m : String}
    (h : store (.job m key) env s = ⟨.ok (.ok none), later, s'⟩) (rest : List String) :
    store.findJobIn key (m :: rest) env s = store.findJobIn key rest later s' := by
  rw [findJobIn, Act.bind_run, h]

theorem Search.run {managers : List String} {replies : List Reply}
    {result : StoreResult (Option (String × JobConfiguration))} (h : Search key managers replies result)
    (hreplies : store.Replies replies env s later s') :
    store.findJobIn key managers env s = ⟨.ok result, later, s'⟩ := by
  induction managers generalizing replies result env s with
  | nil =>
    cases h with
    | missing =>
      cases hreplies
      rfl
    | found _ hsplit => simp at hsplit
    | failed _ hsplit => simp at hsplit
  | cons m managers ih =>
    cases h with
    | missing =>
      cases hreplies with
      | more hfirst hrest => exact (findJobIn_of_none hfirst _).trans (ih .missing hrest)
    | found before hsplit job =>
      cases before with
      | nil =>
        obtain ⟨rfl, rfl⟩ := List.cons.inj hsplit
        cases hreplies with
        | more hfound hend =>
          cases hend
          exact findJobIn_of_some hfound _
      | cons first before =>
        obtain ⟨rfl, rfl⟩ := List.cons.inj hsplit
        cases hreplies with
        | more hfirst hrest => exact (findJobIn_of_none hfirst _).trans (ih (.found _ rfl job) hrest)
    | failed before hsplit e =>
      cases before with
      | nil =>
        obtain ⟨rfl, rfl⟩ := List.cons.inj hsplit
        cases hreplies with
        | more hfailed hend =>
          cases hend
          exact findJobIn_of_error hfailed _
      | cons first before =>
        obtain ⟨rfl, rfl⟩ := List.cons.inj hsplit
        cases hreplies with
        | more hfirst hrest => exact (findJobIn_of_none hfirst _).trans (ih (.failed _ rfl e) hrest)

/-- A manager without the job comes before a search. -/
theorem Search.cons {managers : List String} {replies : List Reply}
    {result : StoreResult (Option (String × JobConfiguration))} (h : Search key managers replies result)
    (m : String) : Search key (m :: managers) (Reply.lacks key m :: replies) result := by
  cases h with
  | missing => exact .missing
  | found before hsplit job =>
    rw [hsplit]
    exact .found (m :: before) rfl job
  | failed before hsplit e =>
    rw [hsplit]
    exact .failed (m :: before) rfl e

theorem exists_search (hstore : store.Responds) (key : JobKey) (managers : List String) (env : Env)
    (s : σ) : ∃ replies result later s', store.Replies replies env s later s' ∧
      Search key managers replies result := by
  induction managers generalizing env s with
  | nil => exact ⟨[], .ok none, env, s, .none, .missing⟩
  | cons m managers ih =>
    obtain ⟨result, between, t, hfirst⟩ := hstore (.job m key) env s
    rcases result with e | _ | job
    · exact ⟨_, _, between, t, .one hfirst, .failed [] rfl e⟩
    · obtain ⟨replies, result, later, s', hrest, hsearch⟩ := ih between t
      exact ⟨_, result, later, s', .more hfirst hrest, hsearch.cons m⟩
    · exact ⟨_, _, between, t, .one hfirst, .found [] rfl job⟩

/-! ## Listings -/

theorem jobsOfAll_of_error {m : String} {e : StoreError}
    (h : store (.jobs m) env s = ⟨.ok (.error e), later, s'⟩) (rest : List String) :
    store.jobsOfAll (m :: rest) env s = ⟨.ok (.error e), later, s'⟩ := by
  rw [jobsOfAll, Act.bind_run, h]
  rfl

theorem jobsOfAll_of_ok {m : String} {jobs : List JobConfiguration}
    (h : store (.jobs m) env s = ⟨.ok (.ok jobs), between, t⟩) {rest : List String}
    {others : StoreResult (List (String × JobConfiguration))}
    (hrest : store.jobsOfAll rest between t = ⟨.ok others, later, s'⟩) :
    store.jobsOfAll (m :: rest) env s =
      ⟨.ok (others.map fun pairs => (jobs.map fun job => (m, job)) ++ pairs), later, s'⟩ := by
  rw [jobsOfAll, Act.bind_run, h]
  change (store.jobsOfAll rest >>= _) between t = _
  rw [Act.bind_run, hrest]
  rfl

theorem Listing.run {managers : List String} {replies : List Reply}
    {result : StoreResult (List (String × JobConfiguration))} (h : Listing managers replies result)
    (hreplies : store.Replies replies env s later s') :
    store.jobsOfAll managers env s = ⟨.ok result, later, s'⟩ := by
  induction managers generalizing replies result env s with
  | nil =>
    cases h with
    | complete owned hall =>
      obtain rfl : owned = [] := List.map_eq_nil_iff.1 hall.symm
      cases hreplies
      rfl
    | failed _ hsplit => simp at hsplit
  | cons m managers ih =>
    cases h with
    | complete owned hall =>
      cases owned with
      | nil => cases hall
      | cons first owned =>
        obtain ⟨rfl, rfl⟩ := List.cons.inj hall
        cases hreplies with
        | more hfirst hrest => exact jobsOfAll_of_ok hfirst (ih (.complete _ rfl) hrest)
    | failed owned hsplit e =>
      cases owned with
      | nil =>
        obtain ⟨rfl, rfl⟩ := List.cons.inj hsplit
        cases hreplies with
        | more hfailed hend =>
          cases hend
          exact jobsOfAll_of_error hfailed _
      | cons first owned =>
        obtain ⟨rfl, rfl⟩ := List.cons.inj hsplit
        cases hreplies with
        | more hfirst hrest => exact jobsOfAll_of_ok hfirst (ih (.failed _ rfl e) hrest)

/-- The jobs of one more manager come before a listing. -/
theorem Listing.cons {managers : List String} {replies : List Reply}
    {result : StoreResult (List (String × JobConfiguration))} (h : Listing managers replies result)
    (m : String) (jobs : List JobConfiguration) :
    Listing (m :: managers) (Reply.owns (m, jobs) :: replies)
      (result.map fun pairs => (jobs.map fun job => (m, job)) ++ pairs) := by
  cases h with
  | complete owned hall =>
    rw [hall]
    exact .complete ((m, jobs) :: owned) rfl
  | failed owned hsplit e =>
    rw [hsplit]
    exact .failed ((m, jobs) :: owned) rfl e

theorem exists_listing (hstore : store.Responds) (managers : List String) (env : Env) (s : σ) :
    ∃ replies result later s', store.Replies replies env s later s' ∧
      Listing managers replies result := by
  induction managers generalizing env s with
  | nil => exact ⟨[], .ok [], env, s, .none, .complete [] rfl⟩
  | cons m managers ih =>
    obtain ⟨result, between, t, hfirst⟩ := hstore (.jobs m) env s
    rcases result with e | jobs
    · exact ⟨_, _, between, t, .one hfirst, .failed [] rfl e⟩
    · obtain ⟨replies, result, later, s', hrest, hlisting⟩ := ih between t
      exact ⟨_, _, later, s', .more hfirst hrest, hlisting.cons m jobs⟩

/-! ## Whole walks -/

theorem Walk.findJob {replies : List Reply} {result : StoreResult (Option (String × JobConfiguration))}
    (h : Walk (Search key) replies result) (hreplies : store.Replies replies env s later s') :
    store.findJob key env s = ⟨.ok result, later, s'⟩ := by
  cases h with
  | unknown e =>
    cases hreplies with
    | more hfailed hend =>
      cases hend
      rw [Store.findJob, Act.bind_run, hfailed]
      rfl
  | known ids hsearch =>
    cases hreplies with
    | more hfirst hrest => exact (findJob_run hfirst).trans (hsearch.run hrest)

theorem Walk.allJobs {replies : List Reply} {result : StoreResult (List (String × JobConfiguration))}
    (h : Walk Listing replies result) (hreplies : store.Replies replies env s later s') :
    store.allJobs env s = ⟨.ok result, later, s'⟩ := by
  cases h with
  | unknown e =>
    cases hreplies with
    | more hfailed hend =>
      cases hend
      rw [Store.allJobs, Act.bind_run, hfailed]
      rfl
  | known ids hlisting =>
    cases hreplies with
    | more hfirst hrest => exact (allJobs_run hfirst).trans (hlisting.run hrest)

/-- A walk that goes on with the managers it is told of comes to an end if what follows does. -/
theorem exists_walk {among : List String → List Reply → StoreResult α → Prop} (hstore : store.Responds)
    (hover : ∀ managers env s, ∃ replies result later s', store.Replies replies env s later s' ∧
      among managers replies result) (env : Env) (s : σ) :
    ∃ replies result later s', store.Replies replies env s later s' ∧ Walk among replies result := by
  obtain ⟨result, between, t, hfirst⟩ := hstore .managerIds env s
  rcases result with e | ids
  · exact ⟨_, _, between, t, .one hfirst, .unknown e⟩
  · obtain ⟨replies, result, later, s', hrest, hfollows⟩ := hover ids.toList between t
    exact ⟨_, result, later, s', .more hfirst hrest, .known ids hfollows⟩

end Runs

/-- The walk ends. It makes the calls that the rule says for the replies it is given, no others, and
comes to what the rule says. -/
def Obeys (rule : List Reply → StoreResult α → Prop)
    (walk : {τ : Type} → Store τ → Act τ (StoreResult α)) (store : Store σ) (env : Env) (s : σ) : Prop :=
  ∃ replies result later s', store.Replies replies env s later s' ∧ rule replies result ∧
    walk store env s = ⟨.ok result, later, s'⟩ ∧
    ∀ calls, walk store.noted env (calls, s) =
      ⟨.ok result, later, (calls ++ replies.map Reply.call, s')⟩

/-- Two managers of which only one can be asked, and that one owns a job. -/
def halfFailing (sound : String) (job : JobConfiguration) (e : StoreError) : Answers
  | .managerIds => .ok (.ofList [cronManager, immediateManager])
  | .jobs m => if m = sound then .ok [job] else .error e
  | .job m key => if m = sound then .ok (if job.key = key then some job else none) else .error e
  | _ => .error e

theorem toList_managers :
    (Keyed.ofList [cronManager, immediateManager] : SortedSet String).toList =
      [cronManager, immediateManager] := by
  decide +kernel

/-- A search ends with the first manager, but a listing goes on to the second, which fails. -/
theorem halfFailing_cron (job : JobConfiguration) (e : StoreError) (env : Env) (s : σ) :
    (fixed (halfFailing cronManager job e)).findJob job.key env s =
        ⟨.ok (.ok (some (cronManager, job))), env, s⟩ ∧
      (fixed (halfFailing cronManager job e)).allJobs env s = ⟨.ok (.error e), env, s⟩ := by
  have hother : immediateManager ≠ cronManager := by decide
  constructor
  · have hsearch : Search job.key [cronManager, immediateManager] _ _ := .found [] rfl job
    rw [← toList_managers] at hsearch
    refine (Walk.known _ hsearch).findJob (.fixed env s ?_)
    simp [halfFailing]
  · have hlisting : Listing [cronManager, immediateManager] _ _ :=
      .failed [(cronManager, [job])] rfl e
    rw [← toList_managers] at hlisting
    refine (Walk.known _ hlisting).allJobs (.fixed env s ?_)
    simp [halfFailing, Reply.owns, hother]

/-- Over a store that answers every call, a search asks the managers by name until one replies anything
but that it has no such job, and comes to that reply; a listing asks them until one fails. So a listing
gives the jobs of all exactly if each manager tells its own, and a search finds nothing behind a manager
that fails, but may find a job where the listing fails. -/
theorem walks_obey {store : Store σ} (hstore : store.Responds) (key : JobKey) (env : Env) (s : σ) :
    Obeys (Walk (Search key)) (fun store => store.findJob key) store env s ∧
    Obeys (Walk Listing) allJobs store env s ∧
    (∀ entries later s', store.allJobs env s = ⟨.ok (.ok entries), later, s'⟩ ↔
      ∃ (ids : SortedSet String) (owned : List (String × List JobConfiguration)),
        ids.toList = owned.map Prod.fst ∧
        store.Replies (⟨.managerIds, .ok ids⟩ :: owned.map Reply.owns) env s later s' ∧
        entries = owned.flatMap fun entry => entry.2.map fun job => (entry.1, job)) ∧
    (∀ (ids : SortedSet String) before m after e later s', ids.toList = before ++ m :: after →
      store.Replies (⟨.managerIds, .ok ids⟩ ::
        (before.map (Reply.lacks key) ++ [⟨.job m key, .error e⟩])) env s later s' →
      store.findJob key env s = ⟨.ok (.error e), later, s'⟩) ∧
    ∃ other : Store σ, other.Responds ∧ ∃ entry e,
      (other.findJob key env s).outcome = .ok (.ok (some entry)) ∧
      (other.allJobs env s).outcome = .ok (.error e) := by
  refine ⟨?_, ?_, ?_, ?_, ?_⟩
  · obtain ⟨replies, result, later, s', hreplies, hwalk⟩ :=
      exists_walk hstore (exists_search hstore key) env s
    exact ⟨replies, result, later, s', hreplies, hwalk, hwalk.findJob hreplies,
      fun calls => hwalk.findJob (hreplies.noted calls)⟩
  · obtain ⟨replies, result, later, s', hreplies, hwalk⟩ :=
      exists_walk hstore (exists_listing hstore) env s
    exact ⟨replies, result, later, s', hreplies, hwalk, hwalk.allJobs hreplies,
      fun calls => hwalk.allJobs (hreplies.noted calls)⟩
  · intro entries later s'
    constructor
    · intro hrun
      obtain ⟨replies, result, _, _, hreplies, hwalk⟩ := exists_walk hstore (exists_listing hstore) env s
      have hends := (hwalk.allJobs hreplies).symm.trans hrun
      simp only [Step.mk.injEq, Except.ok.injEq] at hends
      obtain ⟨rfl, rfl, rfl⟩ := hends
      cases hwalk with
      | known ids hlisting =>
        cases hlisting with
        | complete owned hall => exact ⟨ids, owned, hall, hreplies, rfl⟩
    · rintro ⟨ids, owned, hall, hreplies, rfl⟩
      exact (Walk.known ids (.complete _ hall)).allJobs hreplies
  · intro ids before m after e later s' hsplit hreplies
    exact (Walk.known ids (.failed _ hsplit e)).findJob hreplies
  · let job : JobConfiguration := { JobConfiguration.sample "" "" "" with key }
    obtain ⟨hfound, hfails⟩ := halfFailing_cron job (.unavailable "") env s
    exact ⟨_, fixed_responds _, _, _, congrArg Step.outcome hfound, congrArg Step.outcome hfails⟩

/-- A job of the second manager is not found if the first one fails: the second is not asked. -/
theorem walks_obey_when_first_fails :
    let job : JobConfiguration := .sample "www-data" "prod" "hello"
    let offline : StoreError := .unavailable "backend offline"
    let store : Store Unit := fixed (halfFailing immediateManager job offline)
    let told : List Reply := [⟨.managerIds, .ok (.ofList [cronManager, immediateManager])⟩,
      ⟨.job cronManager job.key, .error offline⟩]
    store.Responds ∧ store.Replies told .still () .still () ∧
      Obeys (Walk (Search job.key)) (fun store => store.findJob job.key) store .still () ∧
      store.findJob job.key .still () = ⟨.ok (.error offline), .still, ()⟩ ∧
      store.noted.findJob job.key .still ([], ()) =
        ⟨.ok (.error offline), .still, ([.managerIds, .job cronManager job.key], ())⟩ := by
  intro job offline store told
  have hstore : store.Responds := fixed_responds _
  have hreplies : store.Replies told .still () .still () := by
    have hother : cronManager ≠ immediateManager := by decide
    refine .fixed _ _ ?_
    simp [told, halfFailing, hother]
  have hwalk : Walk (Search job.key) told (.error offline) :=
    .known _ (.failed [] toList_managers offline)
  obtain ⟨hobeys, -, -, hfails, -⟩ := walks_obey hstore job.key .still ()
  exact ⟨hstore, hreplies, hobeys, hfails _ [] _ _ _ _ _ toList_managers hreplies,
    hwalk.findJob (hreplies.noted [])⟩

end Store
end ClusterReads
