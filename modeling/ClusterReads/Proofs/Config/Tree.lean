import ClusterReads.Proofs.Config.Load

/-!
# What stands at a path

A change at a path of names is seen at that path. Paths that lead elsewhere are not touched, and what is
on the way to the change is a group afterwards. Where a document has tables on the way, the tree of its
settings has at a path what the document has there.
-/
namespace ClusterReads

/-- What stands at a path of names, if the groups on the way have them. -/
def Setting.at? : List String → Setting → Option Setting
  | [], s => some s
  | name :: path, s => (member? name s.members).bind (at? path)

/-- The steps to members of these names. -/
def PathStep.ofNames (path : List String) : List PathStep :=
  path.map .member

/-- A group, whatever its members. -/
def Setting.IsGroup (s : Setting) : Prop :=
  ∃ members, s = .group members

instance : DecidablePred Setting.IsGroup
  | .group members => isTrue ⟨members, rfl⟩
  | .missing | .bool _ | .integer _ | .float _ | .text _ | .list _ => isFalse (by simp [Setting.IsGroup])

namespace Setting

variable {name : String} {path other : List String} {f : Setting → Setting} {s : Setting}

theorem at?_cons (name : String) (path : List String) (s : Setting) :
    s.at? (name :: path) = (member? name s.members).bind (at? path) := rfl

theorem at?_append (path more : List String) (s : Setting) :
    s.at? (path ++ more) = (s.at? path).bind (at? more) := by
  induction path generalizing s with
  | nil => rfl
  | cons name path ih =>
    rw [List.cons_append, at?_cons, at?_cons, Option.bind_assoc]
    exact congrArg _ (funext ih)

/-- Below a missing element there is nothing. -/
theorem at?_missing (hpath : path ≠ []) : Setting.missing.at? path = none := by
  cases path with
  | nil => exact absurd rfl hpath
  | cons name path => rfl

theorem at?_getD_missing (hpath : path ≠ []) (s? : Option Setting) :
    (s?.getD .missing).at? path = s?.bind (at? path) := by
  cases s? with
  | none => exact at?_missing hpath
  | some s => rfl

/-- A change at a path that starts with a name, seen under any name. -/
theorem at?_alter_cons (name key : String) (path other : List String) :
    (alter f (PathStep.ofNames (key :: path)) s).at? (name :: other) =
      if key = name then
        (alter f (PathStep.ofNames path) ((member? name s.members).getD .missing)).at? other
      else s.at? (name :: other) := by
  change (member? name (alterMember key _ s.members)).bind _ = _
  rw [member?_alterMember]
  split <;> rfl

/-- The change is seen where it was made. -/
theorem at?_alter (f : Setting → Setting) (path : List String) (s : Setting) :
    (alter f (PathStep.ofNames path) s).at? path = some (f ((s.at? path).getD .missing)) := by
  induction path generalizing s with
  | nil => rfl
  | cons name path ih =>
    rw [at?_alter_cons, if_pos rfl, ih, at?_cons]
    cases member? name s.members with
    | some t => rfl
    | none =>
      cases path with
      | nil => rfl
      | cons first rest => rfl

/-- Nothing else is seen to change. -/
theorem at?_alter_of_disjoint (hpath : ¬path <+: other) (hother : ¬other <+: path) (s : Setting) :
    (alter f (PathStep.ofNames path) s).at? other = s.at? other := by
  induction path generalizing other s with
  | nil => exact absurd List.nil_prefix hpath
  | cons key path ih =>
    cases other with
    | nil => exact absurd List.nil_prefix hother
    | cons name other =>
      rw [at?_alter_cons]
      split
      · next hkey =>
        subst hkey
        rw [List.cons_prefix_cons] at hpath hother
        -- under one name both paths go on, so what is missing there has nothing at the other one
        have hbelow : ¬other <+: path := fun h => hother ⟨rfl, h⟩
        have hnonempty : other ≠ [] := by
          rintro rfl
          exact hbelow List.nil_prefix
        rw [ih (fun h => hpath ⟨rfl, h⟩) hbelow, at?_getD_missing hnonempty, at?_cons]
      · rfl

/-- What is on the way to a change is a group. -/
theorem at?_alter_of_prefix (hother : other <+: path) (hne : other ≠ path) (s : Setting) :
    ∀ t ∈ (alter f (PathStep.ofNames path) s).at? other, t.IsGroup := by
  induction path generalizing other s with
  | nil => exact absurd (List.prefix_nil.1 hother) hne
  | cons key path ih =>
    cases other with
    | nil =>
      rintro t ht
      cases ht
      exact ⟨_, rfl⟩
    | cons name other =>
      obtain ⟨rfl, hrest⟩ := List.cons_prefix_cons.1 hother
      rw [at?_alter_cons, if_pos rfl]
      exact ih hrest (fun h => hne (by rw [h])) _

end Setting

/-! ## Documents -/

/-- What stands at a path of names in a document. -/
def Toml.at? : List String → Toml → Option Toml
  | [], v => some v
  | name :: path, v => (find? v.entries name).bind (at? path)

/-- A table, and no date for the tree. -/
def Toml.IsSection (v : Toml) : Prop :=
  ∃ entries, v = .table entries ∧ date? entries = none

instance : DecidablePred Toml.IsSection
  | .table entries => decidable_of_iff ((date? entries).isNone = true)
    (by simp [Toml.IsSection, Option.isNone_iff_eq_none])
  | .text _ | .integer _ | .float _ | .huge | .bool _ | .moment _ | .array _ =>
    isFalse (by simp [Toml.IsSection])

/-- On the way to a path, before its end, there are tables only. -/
def Toml.Leads (path : List String) (v : Toml) : Prop :=
  ∀ before ∈ path.inits, before ≠ path → ∀ w ∈ v.at? before, w.IsSection

namespace Toml

variable {name : String} {path : List String} {v w : Toml} {s : Setting}

theorem at?_cons (name : String) (path : List String) (v : Toml) :
    v.at? (name :: path) = (find? v.entries name).bind (at? path) := rfl

theorem Leads.isSection (h : v.Leads (name :: path)) : v.IsSection :=
  h [] (by simp) (by simp) v rfl

theorem Leads.below (h : v.Leads (name :: path)) (hw : find? v.entries name = some w) :
    w.Leads path := by
  intro before hbefore hne u hu
  refine h (name :: before) (by simpa using hbefore) (by simpa using hne) u ?_
  rw [at?_cons, hw]
  exact hu

theorem IsSection.isGroup (h : v.IsSection) (hs : Setting.ofToml? v = some s) : s.IsGroup := by
  obtain ⟨entries, rfl, hdate⟩ := h
  obtain ⟨_, _, hdate', -⟩ | ⟨-, members, -, rfl⟩ := Setting.ofToml?_table hs
  · rw [hdate] at hdate'
    cases hdate'
  · exact ⟨members, rfl⟩

/-- The settings of a document stand where the values stand. -/
theorem at?_ofToml? (h : v.Leads path) (hs : Setting.ofToml? v = some s) :
    Option.Rel (fun w t => Setting.ofToml? w = some t) (v.at? path) (s.at? path) := by
  induction path generalizing v s with
  | nil => exact .some hs
  | cons name path ih =>
    obtain ⟨entries, rfl, -⟩ := h.isSection
    obtain ⟨members, rfl⟩ := h.isSection.isGroup hs
    obtain ⟨_, heq, -, hsettings⟩ := Setting.ofToml?_eq_group hs
    cases heq
    have hmember := hsettings.member? name
    change Option.Rel _ ((find? entries name).bind _) ((Setting.member? name members).bind _)
    generalize hfind : find? entries name = w? at hmember
    generalize Setting.member? name members = t? at hmember
    cases hmember with
    | none => exact .none
    | some hsetting => exact ih (h.below hfind) hsetting

end Toml

end ClusterReads
