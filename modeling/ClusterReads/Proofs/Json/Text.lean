import ClusterReads.Json.Codec
import ClusterReads.Proofs.Decimal.Digits

/-!
# JSON text reads back

The reader takes the text that the printer writes, whatever follows it. Main statement: a tree with
written literals and named members, nested no deeper than a reader keeps, is read back from its
text.
-/
namespace ClusterReads
namespace Json

open Decimal

/-! ## Strings -/

theorem codes_plain {c : Char} (hquote : c ≠ '"') (hslash : c ≠ '\\') (hlow : ¬ c.toNat < 32)
    (more : List Char) : codes (c :: more) = consCode c.toNat (codes more) := by
  rw [codes.eq_def]
  split
  · next h => cases h
  · next h => exact absurd (List.cons.inj h).1 hquote
  · next h => exact absurd (List.cons.inj h).1 hslash
  · next h => exact absurd (List.cons.inj h).1 hslash
  · next h =>
    obtain ⟨rfl, rfl⟩ := List.cons.inj h
    rw [if_neg hlow]

theorem hexValue?_hexDigit {n : Nat} (h : n < 16) : hexValue? (hexDigit n) = some n := by
  have : ∀ n : Fin 16, hexValue? (hexDigit n) = some n.val := by decide
  exact this ⟨n, h⟩

theorem codes_escape (c : Char) (more : List Char) :
    codes (escape c ++ more) = consCode c.toNat (codes more) := by
  unfold escape
  split
  · next h => subst h; rfl
  split
  · next h => subst h; rfl
  split
  · next h => subst h; rfl
  split
  · next h => subst h; rfl
  split
  · next h => subst h; rfl
  split
  · next h => subst h; rfl
  split
  · next h => subst h; rfl
  split
  · next hlow =>
    have hhigh := hexValue?_hexDigit (n := c.toNat / 16) (by omega)
    have hdigit := hexValue?_hexDigit (n := c.toNat % 16) (by omega)
    have hzero : hexValue? '0' = some 0 := by decide
    have hcode : hexValue4? '0' '0' (hexDigit (c.toNat / 16)) (hexDigit (c.toNat % 16)) =
        some c.toNat := by
      simp only [hexValue4?, hzero, hhigh, hdigit, Option.bind_eq_bind, Option.bind_some,
        Option.pure_def, Option.some.injEq]
      omega
    simp only [List.cons_append, List.nil_append, codes, hcode]
  · next hquote hslash _ _ _ _ _ hlow => exact codes_plain hquote hslash hlow more

theorem codes_escapeAll (cs rest : List Char) :
    codes (escapeAll cs ++ '"' :: rest) = some (cs.map Char.toNat, rest) := by
  induction cs with
  | nil => rfl
  | cons c cs ih =>
    rw [escapeAll, List.append_assoc, codes_escape, ih]
    rfl

/-- A character is no half of a surrogate pair. -/
theorem not_surrogate (c : Char) : isHigh c.toNat = false ∧ isLow c.toNat = false := by
  have hvalid : c.toNat < 0xD800 ∨ (0xDFFF < c.toNat ∧ c.toNat < 0x110000) := c.valid
  unfold isHigh isLow
  constructor <;> simp only [Bool.and_eq_false_iff, decide_eq_false_iff_not] <;> omega

theorem joinPairs_toNat (cs : List Char) : joinPairs (cs.map Char.toNat) = some cs := by
  induction cs with
  | nil => rfl
  | cons c cs ih =>
    obtain ⟨hhigh, hlow⟩ := not_surrogate c
    cases cs with
    | nil => simp [joinPairs, hhigh, hlow]
    | cons d rest =>
      rw [List.map_cons] at ih
      simp [joinPairs, hhigh, hlow, ih]

theorem stringBody_escapeAll (s : String) (rest : List Char) :
    stringBody (escapeAll s.toList ++ '"' :: rest) = some (some s, rest) := by
  rw [stringBody, codes_escapeAll]
  change some ((joinPairs (s.toList.map Char.toNat)).map String.ofList, rest) = _
  rw [joinPairs_toNat, Option.map_some, String.ofList_toList]

/-! ## Numbers -/

/-- A text that cannot go on with a number. -/
def EndsNumber (rest : List Char) : Prop :=
  ∀ c, rest.head? = some c → c.isDigit = false ∧ c ≠ '.' ∧ c ≠ 'e' ∧ c ≠ 'E'

theorem endsNumber_nil : EndsNumber [] := by
  intro c h
  cases h

theorem endsNumber_cons {c : Char} (h : c.isDigit = false ∧ c ≠ '.' ∧ c ≠ 'e' ∧ c ≠ 'E')
    (rest : List Char) : EndsNumber (c :: rest) := by
  intro d hd
  cases hd
  exact h

theorem wholePart_digits (n : Nat) {rest : List Char}
    (hrest : ∀ c, rest.head? = some c → c.isDigit = false) :
    wholePart (digits n ++ rest) = some (n, rest) := by
  rw [wholePart, span_digits n hrest]
  by_cases hn : n = 0
  · subst hn
    rw [show digits 0 = ['0'] by decide +kernel]
    rfl
  · have hhead := digits_head? hn
    have hvalue := value_digits n
    split
    · next h => exact absurd (congrArg Prod.fst h) (digits_ne_nil n)
    · next h =>
      rw [show digits n = ['0'] from congrArg Prod.fst h] at hhead
      exact absurd rfl hhead
    · next h =>
      rw [show digits n = _ :: _ from congrArg Prod.fst h] at hhead
      exact absurd rfl hhead
    · next h =>
      cases h
      rw [hvalue]

theorem fractionPart_append {ds rest : List Char} (hds : ∀ c ∈ ds, c.isDigit = true)
    (hrest : ∀ c, rest.head? = some c → c.isDigit = false ∧ c ≠ '.') :
    fractionPart ((if ds.isEmpty then [] else '.' :: ds) ++ rest) = some (ds, rest) := by
  cases ds with
  | nil =>
    cases rest with
    | nil => rfl
    | cons c cs =>
      have hc := (hrest c rfl).2
      rw [List.isEmpty_nil, if_pos rfl, List.nil_append, fractionPart.eq_def]
      split
      · next h => exact absurd (List.cons.inj h).1 hc
      · rfl
  | cons d ds =>
    rw [List.isEmpty_cons, if_neg (by decide), List.cons_append, fractionPart,
      span_append hds fun c h => (hrest c h).1]

/-- The exponent as it is written. -/
def exponentChars : Option Int → List Char
  | none => []
  | some e => 'e' :: (if e < 0 then '-' else '+') :: digits e.natAbs

theorem exponentPart_append (exponent : Option Int) {rest : List Char} (hrest : EndsNumber rest) :
    exponentPart (exponentChars exponent ++ rest) = some (exponent, rest) := by
  cases exponent with
  | none =>
    cases rest with
    | nil => rfl
    | cons c cs =>
      obtain ⟨-, -, he, hE⟩ := hrest c rfl
      simp [exponentChars, exponentPart, he, hE]
  | some e =>
    obtain ⟨d, ds, hds, -⟩ := digits_head_isDigit e.natAbs
    have hspan : span (digits e.natAbs ++ rest) = (digits e.natAbs, rest) :=
      span_digits e.natAbs fun c h => (hrest c h).1
    have hvalue := value_digits e.natAbs
    rw [hds, List.cons_append] at hspan
    rw [hds] at hvalue
    rw [exponentChars, hds]
    generalize hn : e.natAbs = n at hspan hvalue
    by_cases hneg : e < 0
    · have hint : -(n : Int) = e := by omega
      simp [exponentPart, splitSign, hneg, hspan, hvalue, hint]
    · have hint : (n : Int) = e := by omega
      simp [exponentPart, splitSign, hneg, hspan, hvalue, hint]

/-- What follows the whole part is no digit, and what follows the fraction no point either. -/
theorem exponentChars_head (exponent : Option Int) {rest : List Char} (hrest : EndsNumber rest)
    (c : Char) (h : (exponentChars exponent ++ rest).head? = some c) : c.isDigit = false ∧
    c ≠ '.' := by
  cases exponent with
  | none => exact ⟨(hrest c h).1, (hrest c h).2.1⟩
  | some e =>
    cases h
    exact ⟨rfl, by decide⟩

theorem numberLiteral_unsigned {cs : List Char} (h : cs.head? ≠ some '-') :
    numberLiteral cs = unsignedNumber false cs := by
  rw [numberLiteral.eq_def]
  split
  · exact absurd rfl h
  · rfl

theorem literal_chars (l : Literal) : l.chars = (if l.negative then ['-'] else []) ++
    (digits l.whole ++ ((if l.fraction.isEmpty then [] else '.' :: l.fraction) ++
      exponentChars l.exponent)) := by
  cases h : l.exponent <;> simp [Literal.chars, exponentChars, h]

theorem numberLiteral_chars {l : Literal} (hl : l.Written) {rest : List Char}
    (hrest : EndsNumber rest) :
    numberLiteral (l.chars ++ rest) = some (l, rest) := by
  obtain ⟨negative, whole, fraction, exponent⟩ := l
  have hfraction : ∀ c, ((if fraction.isEmpty then [] else '.' :: fraction) ++
      (exponentChars exponent ++ rest)).head? = some c → c.isDigit = false := by
    intro c h
    cases fraction with
    | nil => exact (exponentChars_head exponent hrest c h).1
    | cons d ds =>
      cases h
      rfl
  have hunsigned : unsignedNumber negative (digits whole ++
      ((if fraction.isEmpty then [] else '.' :: fraction) ++ (exponentChars exponent ++ rest))) =
      some (⟨negative, whole, fraction, exponent⟩, rest) := by
    rw [unsignedNumber, wholePart_digits whole hfraction]
    simp only [Option.bind_eq_bind, Option.bind_some]
    rw [fractionPart_append hl (exponentChars_head exponent hrest)]
    simp only [Option.bind_some]
    rw [exponentPart_append exponent hrest]
    rfl
  rw [literal_chars]
  simp only [List.append_assoc]
  cases negative with
  | true => exact hunsigned
  | false =>
    rw [if_neg (by decide), List.nil_append, numberLiteral_unsigned, hunsigned]
    obtain ⟨c, ds, hds, hc⟩ := digits_head_isDigit whole
    rw [hds]
    rintro h
    cases h
    cases hc

/-! ## Values -/

/-- A tree of so many levels that a value is written as: its literals are written and its names
texts. -/
inductive Written : Nat → Json → Prop
  | null {depth : Nat} : Written depth .null
  | bool {depth : Nat} (b : Bool) : Written depth (.bool b)
  | number {depth : Nat} {l : Literal} (h : l.Written) : Written depth (.number l)
  | text {depth : Nat} (s : String) : Written depth (.text s)
  | array {depth : Nat} {items : List Json} (h : ∀ j ∈ items, Written depth j) :
    Written (depth + 1) (.array items)
  | object {depth : Nat} {members : List (Option String × Json)}
    (hnames : ∀ m ∈ members, ∃ name, m.1 = some name) (h : ∀ m ∈ members, Written depth m.2) :
    Written (depth + 1) (.object members)

/-- The text of a member. -/
def memberChars (name : String) (j : Json) : List Char :=
  stringChars (some name) ++ ':' :: chars j

/-- With so much fuel the reader takes whatever is written in half as many characters. -/
structure Reads (fuel : Nat) : Prop where
  value : ∀ depth j rest, Written depth j → EndsNumber rest → 2 * (chars j).length ≤ fuel →
    value fuel (chars j ++ rest) = some (j, rest)
  items : ∀ depth js rest, (∀ j ∈ js, Written depth j) → 2 * (itemsTail js).length ≤ fuel →
    itemsRest fuel (itemsTail js ++ rest) = some (js, rest)
  member : ∀ depth name j rest, Written depth j → EndsNumber rest →
    2 * (memberChars name j).length ≤ fuel → member fuel (memberChars name j ++ rest) = some
      ((some name, j), rest)
  members : ∀ depth ms rest, (∀ m ∈ ms, ∃ name, m.1 = some name) → (∀ m ∈ ms, Written depth m.2) →
    2 * (membersTail ms).length ≤ fuel → membersRest fuel (membersTail ms ++ rest) = some (ms, rest)

theorem skipBlanks_cons {c : Char} (h : isBlank c = false) (cs : List Char) :
    skipBlanks (c :: cs) = c :: cs := by
  simp [skipBlanks, h]

theorem isBlank_of_isDigit {c : Char} (h : c.isDigit = true) : isBlank c = false := by
  cases hb : isBlank c with
  | false => rfl
  | true =>
    simp only [isBlank, Bool.or_eq_true, decide_eq_true_eq] at hb
    rcases hb with ((rfl | rfl) | rfl) | rfl <;> cases h

theorem stringChars_some (s : String) :
    stringChars (some s) = '"' :: (escapeAll s.toList ++ ['"']) := by
  unfold stringChars
  rfl

theorem stringChars_append (s : String) (rest : List Char) :
    stringChars (some s) ++ rest = '"' :: (escapeAll s.toList ++ '"' :: rest) := by
  rw [stringChars_some, List.cons_append, List.append_assoc]
  rfl

theorem literal_start (l : Literal) :
    ∃ c cs, l.chars = c :: cs ∧ (c = '-' ∨ c.isDigit = true) := by
  obtain ⟨d, ds, hds, hd⟩ := digits_head_isDigit l.whole
  rw [literal_chars, hds]
  cases l.negative with
  | true => exact ⟨'-', _, rfl, Or.inl rfl⟩
  | false => exact ⟨d, _, rfl, Or.inr hd⟩

/-- No text of a value starts with a blank or with a closing bracket. -/
theorem chars_start {depth : Nat} {j : Json} (h : Written depth j) :
    ∃ c cs, chars j = c :: cs ∧ isBlank c = false ∧ c ≠ ']' ∧ c ≠ '}' := by
  cases h with
  | null => exact ⟨'n', ['u', 'l', 'l'], rfl, by decide, by decide, by decide⟩
  | bool b =>
    cases b with
    | true => exact ⟨'t', ['r', 'u', 'e'], rfl, by decide, by decide, by decide⟩
    | false => exact ⟨'f', ['a', 'l', 's', 'e'], rfl, by decide, by decide, by decide⟩
  | @number _ l h =>
    obtain ⟨c, cs, hcs, hc⟩ := literal_start l
    refine ⟨c, cs, by rw [chars, hcs], ?_⟩
    rcases hc with rfl | hc
    · exact ⟨by decide, by decide, by decide⟩
    · refine ⟨isBlank_of_isDigit hc, ?_, ?_⟩ <;> rintro rfl <;> cases hc
  | text s =>
    exact ⟨'"', escapeAll s.toList ++ ['"'], by rw [text, chars, stringChars_some], by decide,
      by decide, by decide⟩
  | @array _ items h =>
    cases items with
    | nil => exact ⟨'[', _, by rw [chars], by decide, by decide, by decide⟩
    | cons j rest => exact ⟨'[', _, by rw [chars], by decide, by decide, by decide⟩
  | @object _ members hnames h =>
    cases members with
    | nil => exact ⟨'\x7b', _, by rw [chars], by decide, by decide, by decide⟩
    | cons m rest => exact ⟨'\x7b', _, by rw [chars], by decide, by decide, by decide⟩

theorem chars_length_pos {depth : Nat} {j : Json} (h : Written depth j) : 0 < (chars j).length := by
  obtain ⟨c, cs, hcs, -⟩ := chars_start h
  simp [hcs]

theorem itemsTail_endsNumber (js : List Json)
    (rest : List Char) : EndsNumber (itemsTail js ++ rest) := by
  cases js <;> rw [itemsTail] <;> exact endsNumber_cons (by decide) _

theorem membersTail_endsNumber (ms : List (Option String × Json)) (rest : List Char) :
    EndsNumber (membersTail ms ++ rest) := by
  cases ms <;> rw [membersTail] <;> exact endsNumber_cons (by decide) _

/-- A number is what is left when no other value starts there. -/
theorem value_number {l : Literal} (hl : l.Written) {rest : List Char} (hrest : EndsNumber rest)
    (fuel : Nat) : value (fuel + 1) (l.chars ++ rest) = some (.number l, rest) := by
  have hnumber := numberLiteral_chars hl hrest
  obtain ⟨c, cs, hcs, hc⟩ := literal_start l
  rw [hcs, List.cons_append] at hnumber ⊢
  have hblank : isBlank c = false := by
    rcases hc with rfl | hc
    · decide
    · exact isBlank_of_isDigit hc
  have hne : ∀ d, d.isDigit = false → d ≠ '-' → c ≠ d := by
    rintro d hd hminus rfl
    rcases hc with rfl | hc
    · exact hminus rfl
    · rw [hd] at hc
      cases hc
  rw [value, skipBlanks_cons hblank]
  split
  · next h => exact absurd (List.cons.inj h).1 (hne 'n' rfl (by decide))
  · next h => exact absurd (List.cons.inj h).1 (hne 't' rfl (by decide))
  · next h => exact absurd (List.cons.inj h).1 (hne 'f' rfl (by decide))
  · next h => exact absurd (List.cons.inj h).1 (hne '"' rfl (by decide))
  · next h => exact absurd (List.cons.inj h).1 (hne '[' rfl (by decide))
  · next h => exact absurd (List.cons.inj h).1 (hne '\x7b' rfl (by decide))
  · rw [hnumber, Option.map_some]

theorem value_step {fuel : Nat} (hr : Reads fuel) {depth : Nat} {j : Json} {rest : List Char}
    (hj : Written depth j) (hrest : EndsNumber rest) (hfuel : 2 * (chars j).length ≤ fuel + 1) :
    value (fuel + 1) (chars j ++ rest) = some (j, rest) := by
  cases hj with
  | null => rfl
  | bool b => cases b <;> rfl
  | number hl =>
    rw [chars]
    exact value_number hl hrest fuel
  | text s =>
    rw [text, chars, stringChars_append, value, skipBlanks_cons (by decide)]
    change (stringBody _).map _ = _
    rw [stringBody_escapeAll]
    rfl
  | @array inner items h =>
    cases items with
    | nil => rfl
    | cons j js =>
      have hj := h j List.mem_cons_self
      have hlen : 2 * (chars j).length + 2 * (itemsTail js).length + 2 ≤ fuel + 1 := by
        rw [chars, List.length_cons, List.length_append] at hfuel
        omega
      have hvalue := hr.value inner j (itemsTail js ++ rest) hj (itemsTail_endsNumber js rest)
        (by omega)
      have hitems := hr.items inner js rest (fun d hd => h d (List.mem_cons_of_mem j hd)) (by omega)
      obtain ⟨c, cs, hcs, hblank, hclose, -⟩ := chars_start hj
      rw [chars, List.cons_append, List.append_assoc, value, skipBlanks_cons (by decide)]
      rw [hcs, List.cons_append] at hvalue ⊢
      simp only [skipBlanks_cons hblank]
      split
      · next heq => exact absurd (List.cons.inj heq).1 hclose
      · rw [hvalue]
        simp only [Option.bind_eq_bind, Option.bind_some, hitems, Option.pure_def]
  | @object inner members hnames h =>
    cases members with
    | nil => rfl
    | cons m ms =>
      obtain ⟨name, hname⟩ := hnames m List.mem_cons_self
      obtain ⟨_, j⟩ := m
      subst hname
      have hj := h _ List.mem_cons_self
      have hlen : 2 * (memberChars name j).length + 2 * (membersTail ms).length + 2 ≤ fuel + 1 := by
        rw [chars] at hfuel
        simp only [memberChars, List.length_cons, List.length_append] at hfuel ⊢
        omega
      have hmember := hr.member inner name j (membersTail ms ++ rest) hj
        (membersTail_endsNumber ms rest) (by omega)
      have hmembers := hr.members inner ms rest (fun d hd => hnames d (List.mem_cons_of_mem _ hd))
        (fun d hd => h d (List.mem_cons_of_mem _ hd)) (by omega)
      have hchars : chars (.object ((some name, j) :: ms)) ++ rest =
          '\x7b' :: (memberChars name j ++ (membersTail ms ++ rest)) := by
        rw [chars]
        simp [memberChars]
      rw [hchars, value, skipBlanks_cons (by decide)]
      rw [memberChars, List.append_assoc, stringChars_append] at hmember ⊢
      simp only [skipBlanks_cons (show isBlank '"' = false by decide)]
      split
      · next heq => cases heq
      · rw [hmember]
        simp only [Option.bind_eq_bind, Option.bind_some, hmembers, Option.pure_def]

theorem itemsRest_step {fuel : Nat} (hr : Reads fuel) {depth : Nat} {js : List Json}
    {rest : List Char} (hjs : ∀ j ∈ js, Written depth j)
    (hfuel : 2 * (itemsTail js).length ≤ fuel + 1) :
    itemsRest (fuel + 1) (itemsTail js ++ rest) = some (js, rest) := by
  cases js with
  | nil => rfl
  | cons j js =>
    have hlen : 2 * (chars j).length + 2 * (itemsTail js).length + 2 ≤ fuel + 1 := by
      rw [itemsTail, List.length_cons, List.length_append] at hfuel
      omega
    have hvalue := hr.value depth j (itemsTail js ++ rest) (hjs j List.mem_cons_self)
      (itemsTail_endsNumber js rest) (by omega)
    have hitems := hr.items depth js rest (fun d hd => hjs d (List.mem_cons_of_mem j hd)) (by omega)
    rw [itemsTail, List.cons_append, List.append_assoc, itemsRest, skipBlanks_cons (by decide)]
    simp only [hvalue, Option.bind_eq_bind, Option.bind_some, hitems, Option.pure_def]

theorem member_step {fuel : Nat} (hr : Reads fuel) {depth : Nat} {name : String} {j : Json}
    {rest : List Char} (hj : Written depth j) (hrest : EndsNumber rest)
    (hfuel : 2 * (memberChars name j).length ≤ fuel + 1) :
    member (fuel + 1) (memberChars name j ++ rest) = some ((some name, j), rest) := by
  have hlen : 2 * (chars j).length + 2 ≤ fuel + 1 := by
    simp only [memberChars, List.length_cons, List.length_append] at hfuel
    omega
  have hvalue := hr.value depth j rest hj hrest (by omega)
  rw [memberChars, List.append_assoc, stringChars_append, member, skipBlanks_cons (by decide)]
  simp only [stringBody_escapeAll, Option.bind_eq_bind, Option.bind_some, List.cons_append]
  rw [skipBlanks_cons (by decide)]
  simp only [hvalue, Option.bind_some, Option.pure_def]

theorem membersRest_step {fuel : Nat} (hr : Reads fuel) {depth : Nat}
    {ms : List (Option String × Json)} {rest : List Char}
    (hnames : ∀ m ∈ ms, ∃ name, m.1 = some name) (hms : ∀ m ∈ ms, Written depth m.2)
    (hfuel : 2 * (membersTail ms).length ≤ fuel + 1) :
    membersRest (fuel + 1) (membersTail ms ++ rest) = some (ms, rest) := by
  cases ms with
  | nil => rfl
  | cons m ms =>
    obtain ⟨name, hname⟩ := hnames m List.mem_cons_self
    obtain ⟨_, j⟩ := m
    subst hname
    have hlen : 2 * (memberChars name j).length + 2 * (membersTail ms).length + 2 ≤ fuel + 1 := by
      rw [membersTail] at hfuel
      simp only [memberChars, List.length_cons, List.length_append] at hfuel ⊢
      omega
    have hmember := hr.member depth name j (membersTail ms ++ rest) (hms _ List.mem_cons_self)
      (membersTail_endsNumber ms rest) (by omega)
    have hmembers := hr.members depth ms rest (fun d hd => hnames d (List.mem_cons_of_mem _ hd))
      (fun d hd => hms d (List.mem_cons_of_mem _ hd)) (by omega)
    have hchars : membersTail ((some name, j) :: ms) ++ rest =
        ',' :: (memberChars name j ++ (membersTail ms ++ rest)) := by
      rw [membersTail]
      simp [memberChars]
    rw [hchars, membersRest, skipBlanks_cons (by decide)]
    simp only [hmember, Option.bind_eq_bind, Option.bind_some, hmembers, Option.pure_def]

theorem reads (fuel : Nat) : Reads fuel := by
  induction fuel with
  | zero =>
    constructor
    · intro depth j rest hj _ hfuel
      have := chars_length_pos hj
      omega
    · intro depth js rest _ hfuel
      cases js <;> simp [itemsTail] at hfuel
    · intro depth name j rest _ _ hfuel
      simp [memberChars] at hfuel
    · intro depth ms rest _ _ hfuel
      cases ms <;> simp [membersTail] at hfuel
  | succ fuel hr =>
    exact ⟨fun _ _ _ => value_step hr, fun _ _ _ => itemsRest_step hr,
      fun _ _ _ _ => member_step hr,
      fun _ _ _ => membersRest_step hr⟩

/-! ## Whole texts -/

theorem pruneItems_eq_self {room : Nat} {items : List Json} (h : ∀ j ∈ items, j.prune room = j) :
    pruneItems room items = items := by
  induction items with
  | nil => rfl
  | cons j rest ih =>
    rw [pruneItems, h j List.mem_cons_self, ih fun d hd => h d (List.mem_cons_of_mem j hd)]

theorem pruneMembers_eq_self {room : Nat} {members : List (Option String × Json)}
    (h : ∀ m ∈ members, m.2.prune room = m.2) : pruneMembers room members = members := by
  induction members with
  | nil => rfl
  | cons m rest ih =>
    rw [pruneMembers, h m List.mem_cons_self, ih fun d hd => h d (List.mem_cons_of_mem m hd)]

/-- What is not too deep is kept whole. -/
theorem prune_eq_self {depth room : Nat} {j : Json} (h : Written depth j) (hroom : depth ≤ room) :
    j.prune room = j := by
  induction h generalizing room with
  | null | bool | number | text => cases room <;> rfl
  | array _ ih =>
    obtain ⟨room, rfl⟩ : ∃ r, room = r + 1 := ⟨room - 1, by omega⟩
    rw [prune, pruneItems_eq_self fun j hj => ih j hj (by omega)]
  | object _ _ ih =>
    obtain ⟨room, rfl⟩ : ∃ r, room = r + 1 := ⟨room - 1, by omega⟩
    rw [prune, pruneMembers_eq_self fun m hm => ih m hm (by omega)]

/-- A tree is read back from its text. -/
theorem parse?_print {depth : Nat} {j : Json} (h : Written depth j) (hdepth : depth ≤ maxDepth) :
    parse? j.print = some j := by
  have hvalue := (reads (2 * (chars j).length + 2)).value depth j [] h endsNumber_nil (by omega)
  rw [List.append_nil] at hvalue
  rw [parse?, print, String.toList_ofList]
  simp only [hvalue]
  rw [if_pos (show (skipBlanks []).isEmpty = true from rfl), prune_eq_self h hdepth]

end Json
end ClusterReads
