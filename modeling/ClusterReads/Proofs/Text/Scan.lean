import ClusterReads.Text.Scan

/-!
# Scans in turn

A scan goes on where the one before it stopped, and a repeated scan takes one piece of the text after the
other.
-/
namespace ClusterReads
namespace Text
namespace Scan

theorem bind_scan {α β : Type} {x : Scan α} {f : α → Scan β} {cs rest : List Char} {a : α}
    (h : x cs = some (a, rest)) : (x >>= f) cs = f a rest := by
  change (x cs).bind (fun p => f p.1 p.2) = _
  rw [h]
  rfl

theorem pure_scan {α : Type} (a : α) (cs : List Char) : (pure a : Scan α) cs = some (a, cs) := rfl

theorem map_scan {α β : Type} (f : α → β) {x : Scan α} {cs rest : List Char} {a : α}
    (h : x cs = some (a, rest)) : (f <$> x) cs = some (f a, rest) := by
  change (x cs).bind (fun p => some (f p.1, p.2)) = _
  rw [h]
  rfl

theorem peek_cons (c : Char) (cs : List Char) : peek (c :: cs) = some (some c, c :: cs) := rfl

theorem any_cons (c : Char) (cs : List Char) : any (c :: cs) = some (c, cs) := rfl

theorem char_cons (c : Char) (cs : List Char) : char c (c :: cs) = some ((), cs) :=
  if_pos rfl

/-- The next character is not of a class, if there is one. -/
def Stops (p : Char → Bool) (rest : List Char) : Prop :=
  ∀ c, rest.head? = some c → p c = false

theorem stops_cons {p : Char → Bool} {c : Char} (h : p c = false) (rest : List Char) :
    Stops p (c :: rest) := by
  intro d hd
  obtain rfl : c = d := Option.some.inj hd
  exact h

theorem Stops.takeWhile {p : Char → Bool} {rest : List Char} (h : Stops p rest) :
    rest.takeWhile p = [] ∧ rest.dropWhile p = rest := by
  cases rest with
  | nil => exact ⟨rfl, rfl⟩
  | cons c cs => simp [h c rfl]

/-- Characters of a class are taken up to the first one of another. -/
theorem takeWhile_append {p : Char → Bool} {cs rest : List Char} (hcs : ∀ c ∈ cs, p c = true)
    (hrest : Stops p rest) : takeWhile p (cs ++ rest) = some (cs, rest) := by
  unfold takeWhile
  rw [List.takeWhile_append_of_pos hcs, List.dropWhile_append_of_pos hcs, hrest.takeWhile.1,
    hrest.takeWhile.2, List.append_nil]

theorem skipWhile_stops {p : Char → Bool} {rest : List Char} (h : Stops p rest) :
    skipWhile p rest = some ((), rest) := by
  rw [skipWhile, h.takeWhile.2]

/-! ## Repetition -/

theorem repeated_end {α : Type} {step : Scan (Option α)} {cs rest : List Char}
    (h : step cs = some (none, rest)) : repeated step cs = some ([], rest) := by
  rw [repeated, h]

theorem repeated_cons {α : Type} {step : Scan (Option α)} {cs mid rest : List Char} {a : α}
    {as : List α} (h : step cs = some (some a, mid)) (hlt : mid.length < cs.length)
    (hrest : repeated step mid = some (as, rest)) : repeated step cs = some (a :: as, rest) := by
  rw [repeated, h]
  simp only
  rw [if_pos hlt, hrest]

/-- A text of pieces, each of which a step takes for its value, whatever comes after it. -/
theorem repeated_pieces {α β : Type} {step : Scan (Option β)} {write : α → List Char} {value : α → β}
    {items : List α} {tail rest : List Char}
    (hstep : ∀ a ∈ items, write a ≠ [] ∧ ∀ more, step (write a ++ more) = some (some (value a), more))
    (htail : step tail = some (none, rest)) :
    repeated step (items.flatMap write ++ tail) = some (items.map value, rest) := by
  induction items with
  | nil => exact repeated_end htail
  | cons a items ih =>
    rw [List.forall_mem_cons] at hstep
    obtain ⟨⟨hne, ha⟩, hitems⟩ := hstep
    rw [List.flatMap_cons, List.append_assoc]
    refine repeated_cons (ha _) ?_ (ih hitems)
    have := List.length_pos_iff.2 hne
    simp only [List.length_append]
    omega

/-! ## What a scan can give -/

/-- Whatever a scan gives has a property. -/
def Gives {α : Type} (P : α → Prop) (x : Scan α) : Prop :=
  ∀ ⦃cs a rest⦄, x cs = some (a, rest) → P a

namespace Gives

variable {α β : Type} {P : β → Prop}

theorem pure {b : β} (hb : P b) : Gives P (Pure.pure b) := by
  intro cs a rest h
  cases h
  exact hb

theorem failure : Gives P (Alternative.failure : Scan β) := by
  intro cs a rest h
  cases h

/-- A property of what comes first carries over to what is made of it. -/
theorem bind_of {Q : α → Prop} {x : Scan α} {f : α → Scan β} (hx : Gives Q x)
    (hf : ∀ a, Q a → Gives P (f a)) : Gives P (x >>= f) := by
  intro cs b rest h
  obtain ⟨⟨a, mid⟩, ha, hb⟩ := Option.bind_eq_some_iff.1 h
  exact hf a (hx ha) hb

theorem bind {x : Scan α} {f : α → Scan β} (hf : ∀ a, Gives P (f a)) : Gives P (x >>= f) :=
  bind_of (Q := fun _ => True) (fun _ _ _ _ => trivial) fun a _ => hf a

/-- What holds of every piece that a step takes holds of all pieces together. -/
theorem repeated {step : Scan (Option β)} (hstep : Gives (fun o => ∀ b ∈ o, P b) step) :
    Gives (fun bs => ∀ b ∈ bs, P b) (Scan.repeated step) := by
  intro cs bs rest h
  induction cs using @Scan.repeated.induct _ step generalizing bs with
  | case1 cs hnone => simp [Scan.repeated, hnone] at h
  | case2 cs mid hend =>
    rw [repeated_end hend] at h
    cases h
    simp
  | case3 cs first mid hfirst hlt others last hothers ih =>
    rw [repeated_cons hfirst hlt hothers] at h
    cases h
    exact List.forall_mem_cons.2 ⟨hstep hfirst first rfl, ih hothers⟩
  | case4 cs first mid hfirst hlt hothers ih =>
    rw [Scan.repeated, hfirst] at h
    simp [hlt, hothers] at h
  | case5 cs first mid hfirst hlt =>
    rw [Scan.repeated, hfirst] at h
    simp [hlt] at h

end Gives

end Scan
end Text
end ClusterReads
