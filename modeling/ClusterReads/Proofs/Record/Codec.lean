import ClusterReads.Audit.Event
import ClusterReads.Proofs.Decimal.Finite
import ClusterReads.Proofs.Json.Codec
import ClusterReads.Record.Codec

/-!
# Records read back from JSON

Every record comes back as it was, but for the processors of an amount of resources or of a task: they
are a double, and come back as doubles do.
-/
namespace ClusterReads

open JsonCodec

/-! ## Enumerations -/

theorem rereads_operation : Rereads Operation 0 some :=
  ⟨fun o => .text (Spelled.name o), fun o => decodeName_encodeName o⟩

theorem rereads_status : Rereads ScheduleStatus 0 some :=
  ⟨fun s => .text (Spelled.name s), fun s => decodeName_encodeName s⟩

theorem rereads_mode : Rereads MaintenanceMode 0 some :=
  ⟨fun m => .text (Spelled.name m), fun m => decodeName_encodeName m⟩

theorem rereads_collisionPolicy : Rereads CollisionPolicy 0 some :=
  ⟨fun p => .text (Spelled.name p), fun p => decodeName_encodeName p⟩

/-- A text is read back where there may be none. -/
theorem rereads_text? : Rereads (Option String) 0 some :=
  rereads_string.option_self fun _ h => by cases h

/-! ## Jobs -/

theorem rereads_jobKey : Rereads JobKey 1 some := by
  refine rereads_record (fun _ => rfl) (fun _ => rfl) (by decide) (fun _ => rfl) (fun k => ?_)
    fun k => ?_
  · exact ⟨rereads_string.written _, rereads_string.written _, rereads_string.written _⟩
  · simp only [List.map_cons, List.map_nil, rereads_string.field_encode]
    rfl

theorem rereads_identity : Rereads Identity 1 some := by
  refine rereads_record (fun _ => rfl) (fun _ => rfl) (by decide) (fun _ => rfl) (fun i => ?_)
    fun i => ?_
  · exact ⟨rereads_string.written _, rereads_string.written _⟩
  · simp only [List.map_cons, List.map_nil, rereads_string.field_encode]
    rfl

/-! ## Constraints -/

theorem itemsRepresentable_texts (l : List String) :
    Json.itemsRepresentable (l.map encode) = true := by
  induction l with
  | nil => rfl
  | cons s l ih => exact ih

namespace ConstraintKind

/-- The object of a kind: its tag, and the fields behind it. -/
theorem record_tagged (tag : String) (names : List String) (values : List Json) :
    Json.record (tagName :: names) (Json.text tag :: values) =
      .object ([(some tagName, Json.text tag)] ++ List.zip (names.map some) values) := rfl

/-- An object whose first member is the tag is read by its tag. -/
theorem decode_tagged {tag : String} {names : List String} {values : List Json}
    (hrepresentable :
      (Json.record (tagName :: names) (Json.text tag :: values)).isRepresentable = true)
    (hnodup : (tagName :: names).Nodup) :
    (decode (Json.record (tagName :: names) (Json.text tag :: values)) : Option ConstraintKind) =
      ofTagged? tag (Json.record (tagName :: names) (Json.text tag :: values)) := by
  have hnames : ∀ m ∈ List.zip (names.map some) values, ∃ name ∈ names, m.1 = some name := by
    intro m hm
    obtain ⟨name, hname, hm⟩ := List.mem_map.1 (List.of_mem_zip hm).1
    exact ⟨name, hname, hm.symm⟩
  have hafter : ∀ m ∈ List.zip (names.map some) values, m.1 ≠ some tagName := by
    intro m hm heq
    obtain ⟨name, hname, hm⟩ := hnames m hm
    obtain rfl := Option.some.inj (hm.symm.trans heq)
    exact (List.nodup_cons.1 hnodup).1 hname
  have hall : (([(some tagName, Json.text tag)] ++ List.zip (names.map some) values).all
      fun m => m.1.isSome) = true := by
    refine List.all_eq_true.2 fun m hm => ?_
    rcases List.mem_append.1 hm with hm | hm
    · rw [List.mem_singleton.1 hm]
      rfl
    · obtain ⟨name, -, hm⟩ := hnames m hm
      rw [hm]
      rfl
  have hmember : member? ((some tagName, Json.text tag) :: List.zip (names.map some) values) tagName =
      some (some (Json.text tag)) :=
    member?_append (Json.text tag) (List.forall_mem_nil _) hafter
  have htag : fields? [tagName] (Json.record (tagName :: names) (Json.text tag :: values)) =
      some [some (Json.text tag)] := by
    rw [record_tagged, fields?, if_pos hall, List.mapM_cons, List.mapM_nil, List.singleton_append,
      hmember]
    rfl
  rw [record_tagged, Json.text] at hrepresentable htag ⊢
  simp only [decode, hrepresentable, htag, guard_true, Option.pure_def, Option.bind_eq_bind,
    Option.bind_some]

/-- The fields behind the tag are found by their names. -/
theorem fields?_tagged {tag : String} {names : List String} {values : List Json}
    (hnodup : (tagName :: names).Nodup) (hlength : names.length = values.length) :
    fields? names (Json.record (tagName :: names) (Json.text tag :: values)) =
      some (values.map some) := by
  have hsome : (([(some tagName, Json.text tag)].map Prod.fst) ++ names.map some).Nodup :=
    List.pairwise_map.2 (hnodup.imp fun hne heq => hne (Option.some.inj heq))
  refine fields?_append (fun m hm => ?_) hsome hlength
  rw [List.mem_singleton.1 hm]
  rfl

end ConstraintKind

theorem rereads_constraintKind : Rereads ConstraintKind 2 some := by
  have hvalues := rereads_string.list_self
  refine ⟨fun k => ?_, fun k => ?_⟩
  · cases k with
    | value negated values =>
      exact written_record (List.forall_iff_forall_mem.1
        ⟨.text _, (rereads_bool.written _).mono (by decide), hvalues.written _⟩)
    | limit count =>
      exact written_record (List.forall_iff_forall_mem.1
        ⟨.text _, (rereads_uint32.written _).mono (by decide)⟩)
  · cases k with
    | value negated values =>
      refine (@ConstraintKind.decode_tagged _ ConstraintKind.valueNames _ ?_ (by decide)).trans ?_
      · have hitems := itemsRepresentable_texts values
        change (true && true && (true && true && (true && Json.itemsRepresentable _ && true))) = true
        simpa using hitems
      · simp only [ConstraintKind.ofTagged?]
        rw [ConstraintKind.fields?_tagged (by decide) rfl]
        simp only [List.map_cons, List.map_nil, Option.bind_eq_bind, Option.bind_some,
          rereads_bool.field_encode, hvalues.field_encode, Option.pure_def]
    | limit count =>
      refine (@ConstraintKind.decode_tagged _ ConstraintKind.limitNames _ ?_ (by decide)).trans ?_
      · have hscaled := Decimal.Literal.scaled?_ofNat (n := count.toNat)
          (Nat.le_trans (Nat.le_of_lt count.toNat_lt_size) (by decide))
        change (true && true && (true && Option.isSome _ && true)) = true
        simpa using hscaled
      · simp only [ConstraintKind.ofTagged?]
        rw [ConstraintKind.fields?_tagged (by decide) rfl]
        simp only [List.map_cons, List.map_nil, Option.bind_eq_bind, Option.bind_some,
          rereads_uint32.field_encode, Option.pure_def]

theorem rereads_constraint : Rereads Constraint 3 some := by
  refine rereads_record (fun _ => rfl) (fun _ => rfl) (by decide) (fun _ => rfl) (fun c => ?_)
    fun c => ?_
  · exact ⟨(rereads_string.written _).mono (by decide), rereads_constraintKind.written _⟩
  · simp only [List.map_cons, List.map_nil, rereads_string.field_encode,
      rereads_constraintKind.field_encode]
    rfl

/-! ## Jobs with their tasks -/

/-- The template that is read back for a template, if one is. -/
def TaskConfig.reread? (t : TaskConfig) : Option TaskConfig :=
  (Decimal.reread? t.numCpus).map fun x => { t with numCpus := x }

theorem rereads_taskConfig : Rereads TaskConfig 5 TaskConfig.reread? := by
  have hconstraints := rereads_constraint.list_self
  refine rereads_record (fun _ => rfl) (fun _ => rfl) (by decide) (fun _ => rfl) (fun t => ?_)
    fun t => ?_
  · exact ⟨(rereads_jobKey.written _).mono (by decide), (rereads_identity.written _).mono (by decide),
      (rereads_bool.written _).mono (by decide), (rereads_float.written _).mono (by decide),
      (rereads_uint64.written _).mono (by decide), (rereads_uint64.written _).mono (by decide),
      (rereads_int32.written _).mono (by decide), (rereads_int32.written _).mono (by decide),
      (rereads_bool.written _).mono (by decide), hconstraints.written _,
      (rereads_text?.written _).mono (by decide)⟩
  · simp only [List.map_cons, List.map_nil, rereads_jobKey.field_encode,
      rereads_identity.field_encode, rereads_bool.field_encode, rereads_float.field_encode,
      rereads_uint64.field_encode, rereads_int32.field_encode, hconstraints.field_encode,
      rereads_text?.field_encode, TaskConfig.reread?]
    cases Decimal.reread? t.numCpus <;> rfl

/-- The configuration that is read back for a configuration, if one is. -/
def JobConfiguration.reread? (c : JobConfiguration) : Option JobConfiguration :=
  c.taskConfig.reread?.map fun t => { c with taskConfig := t }

theorem rereads_jobConfiguration : Rereads JobConfiguration 6 JobConfiguration.reread? := by
  refine rereads_record (fun _ => rfl) (fun _ => rfl) (by decide) (fun _ => rfl) (fun c => ?_)
    fun c => ?_
  · exact ⟨(rereads_jobKey.written _).mono (by decide), (rereads_identity.written _).mono (by decide),
      rereads_taskConfig.written _, (rereads_uint32.written _).mono (by decide),
      (rereads_text?.written _).mono (by decide), (rereads_collisionPolicy.written _).mono (by decide)⟩
  · simp only [List.map_cons, List.map_nil, rereads_jobKey.field_encode,
      rereads_identity.field_encode, rereads_taskConfig.field_encode, rereads_uint32.field_encode,
      rereads_text?.field_encode, rereads_collisionPolicy.field_encode, JobConfiguration.reread?]
    cases c.taskConfig.reread? <;> rfl

/-! ## Tasks -/

theorem rereads_taskEvent : Rereads TaskEvent 1 some := by
  refine rereads_record (fun _ => rfl) (fun _ => rfl) (by decide) (fun _ => rfl) (fun e => ?_)
    fun e => ?_
  · exact ⟨rereads_timestamp.written _, rereads_status.written _, rereads_text?.written _,
      rereads_text?.written _⟩
  · simp only [List.map_cons, List.map_nil, rereads_timestamp.field_encode,
      rereads_status.field_encode, rereads_text?.field_encode]
    rfl

/-- Ports are read back under their names. -/
theorem rereads_ports : Rereads (SortedMap String UInt16) 1 some := by
  refine rereads_uint16.sortedMap.congr fun m => ?_
  have hself : m.toList.mapM (fun e => ((some e.2 : Option UInt16)).map fun a => (e.1, a)) =
      some m.toList := by
    change m.toList.mapM (fun e => (pure e : Option (String × UInt16))) = pure m.toList
    rw [List.mapM_pure, List.map_id']
  rw [hself, Option.map_some, Keyed.ofList_toList]

/-- The task that is read back for a task, if one is. -/
def AssignedTask.reread? (t : AssignedTask) : Option AssignedTask :=
  t.task.reread?.map fun c => { t with task := c }

theorem rereads_assignedTask : Rereads AssignedTask 6 AssignedTask.reread? := by
  refine rereads_record (fun _ => rfl) (fun _ => rfl) (by decide) (fun _ => rfl) (fun t => ?_)
    fun t => ?_
  · exact ⟨(rereads_string.written _).mono (by decide), (rereads_text?.written _).mono (by decide),
      (rereads_text?.written _).mono (by decide), rereads_taskConfig.written _,
      (rereads_ports.written _).mono (by decide), (rereads_uint32.written _).mono (by decide)⟩
  · simp only [List.map_cons, List.map_nil, rereads_string.field_encode,
      rereads_text?.field_encode, rereads_taskConfig.field_encode, rereads_ports.field_encode,
      rereads_uint32.field_encode, AssignedTask.reread?]
    cases t.task.reread? <;> rfl

/-- The task that is read back for a task with its history, if one is. -/
def ScheduledTask.reread? (t : ScheduledTask) : Option ScheduledTask :=
  t.assigned.reread?.map fun a => { t with assigned := a }

theorem rereads_scheduledTask : Rereads ScheduledTask 7 ScheduledTask.reread? := by
  have hevents := rereads_taskEvent.list_self
  refine rereads_record (fun _ => rfl) (fun _ => rfl) (by decide) (fun _ => rfl) (fun t => ?_)
    fun t => ?_
  · exact ⟨rereads_assignedTask.written _, (rereads_status.written _).mono (by decide),
      (rereads_uint32.written _).mono (by decide), (hevents.written _).mono (by decide),
      (rereads_text?.written _).mono (by decide)⟩
  · simp only [List.map_cons, List.map_nil, rereads_assignedTask.field_encode,
      rereads_status.field_encode, rereads_uint32.field_encode, hevents.field_encode,
      rereads_text?.field_encode, ScheduledTask.reread?]
    cases t.assigned.reread? <;> rfl

theorem rereads_taskQuery : Rereads TaskQuery 2 some := by
  have htexts : Rereads (Option (SortedSet String)) 1 some :=
    rereads_string.sortedSet.option_self fun _ h => by cases h
  have hstatuses : Rereads (Option (SortedSet ScheduleStatus)) 1 some :=
    rereads_status.sortedSet.option_self fun _ h => by cases h
  have hinstances : Rereads (Option (SortedSet UInt32)) 1 some :=
    rereads_uint32.sortedSet.option_self fun _ h => by cases h
  refine rereads_record (fun _ => rfl) (fun _ => rfl) (by decide) (fun _ => rfl) (fun q => ?_)
    fun q => ?_
  · exact ⟨(rereads_text?.written _).mono (by decide), (rereads_text?.written _).mono (by decide),
      (rereads_text?.written _).mono (by decide), htexts.written _, hstatuses.written _,
      hinstances.written _, htexts.written _⟩
  · simp only [List.map_cons, List.map_nil, rereads_text?.field_encode, htexts.field_encode,
      hstatuses.field_encode, hinstances.field_encode]
    rfl

/-! ## Locks -/

theorem rereads_lockKey : Rereads LockKey 2 some := by
  refine ⟨fun k => ?_, fun k => ?_⟩
  · cases k with
    | job key => exact written_record (List.forall_iff_forall_mem.1 (rereads_jobKey.written key))
  · cases k with
    | job key =>
      change (decode (encode key)).map LockKey.job = some (LockKey.job key)
      rw [rereads_jobKey.decode_encode, Option.map_some]

theorem rereads_lock : Rereads Lock 3 some := by
  refine rereads_record (fun _ => rfl) (fun _ => rfl) (by decide) (fun _ => rfl) (fun l => ?_)
    fun l => ?_
  · exact ⟨rereads_lockKey.written _, (rereads_string.written _).mono (by decide),
      (rereads_string.written _).mono (by decide), (rereads_timestamp.written _).mono (by decide),
      (rereads_text?.written _).mono (by decide)⟩
  · simp only [List.map_cons, List.map_nil, rereads_lockKey.field_encode,
      rereads_string.field_encode, rereads_timestamp.field_encode, rereads_text?.field_encode]
    rfl

/-! ## Resources, hosts and deploys -/

/-- The amount that is read back for an amount, if one is. -/
def Resources.reread? (r : Resources) : Option Resources :=
  (Decimal.reread? r.numCpus).map fun x => { r with numCpus := x }

theorem rereads_resources : Rereads Resources 1 Resources.reread? := by
  refine rereads_record (fun _ => rfl) (fun _ => rfl) (by decide) (fun _ => rfl) (fun r => ?_)
    fun r => ?_
  · exact ⟨rereads_float.written _, rereads_uint64.written _, rereads_uint64.written _⟩
  · simp only [List.map_cons, List.map_nil, rereads_float.field_encode, rereads_uint64.field_encode,
      Resources.reread?]
    cases Decimal.reread? r.numCpus <;> rfl

theorem rereads_attribute : Rereads Attribute 2 some := by
  have hvalues := rereads_string.sortedSet
  refine rereads_record (fun _ => rfl) (fun _ => rfl) (by decide) (fun _ => rfl) (fun a => ?_)
    fun a => ?_
  · exact ⟨(rereads_string.written _).mono (by decide), hvalues.written _⟩
  · simp only [List.map_cons, List.map_nil, rereads_string.field_encode, hvalues.field_encode]
    rfl

theorem rereads_hostAttributes : Rereads HostAttributes 4 some := by
  have hattributes := rereads_attribute.list_self
  refine rereads_record (fun _ => rfl) (fun _ => rfl) (by decide) (fun _ => rfl) (fun h => ?_)
    fun h => ?_
  · exact ⟨(rereads_string.written _).mono (by decide), hattributes.written _,
      (rereads_mode.written _).mono (by decide), (rereads_text?.written _).mono (by decide)⟩
  · simp only [List.map_cons, List.map_nil, rereads_string.field_encode, hattributes.field_encode,
      rereads_mode.field_encode, rereads_text?.field_encode]
    rfl

theorem rereads_deploy : Rereads Deploy 1 some := by
  refine rereads_record (fun _ => rfl) (fun _ => rfl) (by decide) (fun _ => rfl) (fun d => ?_)
    fun d => ?_
  · exact ⟨rereads_string.written _, rereads_string.written _, rereads_string.written _,
      rereads_string.written _, rereads_timestamp.written _⟩
  · simp only [List.map_cons, List.map_nil, rereads_string.field_encode,
      rereads_timestamp.field_encode]
    rfl

/-! ## Audit events -/

theorem rereads_auditOutcome : Rereads AuditOutcome 1 some := by
  refine ⟨fun o => ?_, fun o => ?_⟩
  · cases o with
    | success => exact .text _
    | absent => exact .text _
    | failed message => exact written_record (List.forall_iff_forall_mem.1 (Json.Written.text message))
  · cases o with
    | success => rfl
    | absent => rfl
    | failed message => rfl

theorem rereads_auditEvent : Rereads AuditEvent 2 some := by
  refine rereads_record (fun _ => rfl) (fun _ => rfl) (by decide) (fun _ => rfl) (fun e => ?_)
    fun e => ?_
  · exact ⟨(rereads_operation.written _).mono (by decide), (rereads_text?.written _).mono (by decide),
      rereads_auditOutcome.written _, (rereads_timestamp.written _).mono (by decide)⟩
  · simp only [List.map_cons, List.map_nil, rereads_operation.field_encode,
      rereads_text?.field_encode, rereads_auditOutcome.field_encode, rereads_timestamp.field_encode]
    rfl

end ClusterReads
