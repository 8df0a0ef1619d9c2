import ClusterReads.Config.Toml
import ClusterReads.Proofs.Decimal.Digits
import ClusterReads.Proofs.Text.Scan
import ClusterReads.Proofs.Toml.Quoted

/-!
# TOML text read back

The reader takes the lines that the writer puts down: headers of bare names, and entries whose values are
truth values, words, strings and arrays of strings.
-/
namespace ClusterReads
namespace Toml

open Text Text.Scan

/-! ## Space -/

theorem blanks_stops {rest : List Char} (h : Stops isBlank rest) : blanks rest = some ((), rest) :=
  skipWhile_stops h

/-- Nothing is skipped in front of a character that starts neither space nor a comment. -/
theorem space_cons {c : Char} (hblank : isBlank c = false) (hline : c ≠ '\n' ∧ c ≠ '\r')
    (hcomment : c ≠ '#') (cs : List Char) : space (c :: cs) = some ((), c :: cs) := by
  have hskip : skipSpace false (c :: cs) = some (c :: cs) := by
    rw [skipSpace, if_neg (by simp [hblank])]
    · exact hline.1
    · exact fun _ h => absurd h hline.2
    · exact hcomment
  rw [space, hskip]
  rfl

/-! ## Keys -/

/-- A name that needs no quotes. -/
structure Bare (name : String) : Prop where
  not_empty : name.toList ≠ []
  key_chars : ∀ c ∈ name.toList, isKeyChar c = true

instance (name : String) : Decidable (Bare name) :=
  decidable_of_iff (name.toList ≠ [] ∧ name.toList.all isKeyChar = true)
    ⟨fun h => ⟨h.1, List.all_eq_true.1 h.2⟩, fun h => ⟨h.1, List.all_eq_true.2 h.2⟩⟩

/-- A character of a key starts no quotes, no space and no header. -/
theorem ne_of_isKeyChar {c d : Char} (hc : isKeyChar c = true) (hd : isKeyChar d = false) : c ≠ d := by
  rintro rfl
  rw [hc] at hd
  cases hd

theorem isBlank_of_isKeyChar {c : Char} (h : isKeyChar c = true) : isBlank c = false := by
  simp [isBlank, ne_of_isKeyChar (d := ' ') h (by decide), ne_of_isKeyChar (d := '\t') h (by decide)]

theorem Bare.exists_head {name : String} (h : Bare name) :
    ∃ c cs, name.toList = c :: cs ∧ isKeyChar c = true := by
  cases hname : name.toList with
  | nil => exact absurd hname h.not_empty
  | cons c cs => exact ⟨c, cs, rfl, h.key_chars c (hname ▸ List.mem_cons_self)⟩

theorem keyPart_bare {name : String} (h : Bare name) {rest : List Char}
    (hrest : Stops isKeyChar rest) : keyPart (name.toList ++ rest) = some (name, rest) := by
  have htake := takeWhile_append h.key_chars hrest
  obtain ⟨c, cs, hname, hc⟩ := h.exists_head
  have hdouble : c ≠ '"' := ne_of_isKeyChar hc (by decide)
  have hsingle : c ≠ '\'' := ne_of_isKeyChar hc (by decide)
  rw [hname, List.cons_append] at htake ⊢
  rw [keyPart, bind_scan (peek_cons c _)]
  simp only [Option.some.injEq, hdouble, hsingle, imp_self]
  rw [bind_scan htake, if_neg (by simp), ← hname, pure_scan, String.ofList_toList]

/-- No further name follows where there is no point. -/
theorem moreKey_none {c : Char} (hblank : isBlank c = false) (hpoint : c ≠ '.') (cs : List Char) :
    moreKey (c :: cs) = some (none, c :: cs) := by
  rw [moreKey, bind_scan (blanks_stops (stops_cons hblank cs)), bind_scan (peek_cons c cs)]
  simp only [Option.some.injEq, hpoint, imp_self]
  rfl

theorem moreKey_blank (cs : List Char) : moreKey (' ' :: cs) = moreKey cs := rfl

/-- One more name after a point. -/
theorem moreKey_point {name : String} (h : Bare name) {rest : List Char}
    (hrest : Stops isKeyChar rest) :
    moreKey ('.' :: (name.toList ++ rest)) = some (some name, rest) := by
  have hblanks : Toml.blanks (name.toList ++ rest) = some ((), name.toList ++ rest) := by
    obtain ⟨c, cs, hname, hc⟩ := h.exists_head
    rw [hname]
    exact blanks_stops (stops_cons (isBlank_of_isKeyChar hc) _)
  rw [moreKey, bind_scan (blanks_stops (stops_cons (by decide) _)), bind_scan (peek_cons '.' _)]
  simp only
  rw [bind_scan (any_cons '.' _), bind_scan hblanks, map_scan some (keyPart_bare h hrest)]

/-- A key of one name, and what follows it up to the next mark. -/
theorem key_bare {name : String} (h : Bare name) {c : Char} (hblank : isBlank c = false)
    (hkey : isKeyChar c = false) (hpoint : c ≠ '.') (cs : List Char) :
    key (name.toList ++ c :: cs) = some (([], name), c :: cs) ∧
      key (name.toList ++ ' ' :: c :: cs) = some (([], name), c :: cs) := by
  have hmore := repeated_end (moreKey_none hblank hpoint cs)
  constructor
  · rw [key, bind_scan (keyPart_bare h (stops_cons hkey cs)), bind_scan hmore]
    rfl
  · have hend := repeated_end ((moreKey_blank (c :: cs)).trans (moreKey_none hblank hpoint cs))
    rw [key, bind_scan (keyPart_bare h (stops_cons (by decide) _)), bind_scan hend]
    rfl

/-- A key of two names. -/
theorem key_dotted {first second : String} (hfirst : Bare first) (hsecond : Bare second) {c : Char}
    (hblank : isBlank c = false) (hkey : isKeyChar c = false) (hpoint : c ≠ '.') (cs : List Char) :
    key (first.toList ++ '.' :: (second.toList ++ c :: cs)) = some (([first], second), c :: cs) := by
  have hshorter : (c :: cs).length < ('.' :: (second.toList ++ c :: cs)).length := by
    simp only [List.length_cons, List.length_append]
    omega
  have hmore := repeated_cons (moreKey_point hsecond (stops_cons hkey cs)) hshorter
    (repeated_end (moreKey_none hblank hpoint cs))
  rw [key, bind_scan (keyPart_bare hfirst (stops_cons (by decide) _)), bind_scan hmore]
  rfl

/-! ## Scalars -/

theorem joinDigits_digits {cs : List Char} (hne : cs ≠ []) (h : ∀ c ∈ cs, c.isDigit = true) :
    joinDigits Char.isDigit cs = some cs := by
  induction cs with
  | nil => exact absurd rfl hne
  | cons c cs ih =>
    rw [List.forall_mem_cons] at h
    cases cs with
    | nil => simp [joinDigits, h.1]
    | cons d ds =>
      have hd : d ≠ '_' := by
        rintro rfl
        exact absurd (h.2 '_' List.mem_cons_self) (by decide)
      rw [joinDigits, if_pos h.1, ih (by simp) h.2]
      · rfl
      · simp
      · exact fun _ heq => hd (List.cons.inj heq).1

theorem wholeDigits?_digits (n : Nat) : wholeDigits? (Decimal.digits n) = some (Decimal.digits n) := by
  have hjoin := joinDigits_digits (Decimal.digits_ne_nil n) fun _ => Decimal.isDigit_of_mem_digits
  rw [wholeDigits?, hjoin, Option.bind_eq_bind, Option.bind_some]
  rcases Nat.eq_zero_or_pos n with rfl | hpos
  · decide +kernel
  · have hhead := Decimal.digits_head? (Nat.pos_iff_ne_zero.1 hpos)
    split
    · next heq => rw [heq]
    · next heq => rw [heq] at hhead; exact absurd rfl hhead
    · rfl

theorem not_mem_digits {c : Char} (h : c.isDigit = false) (n : Nat) : c ∉ Decimal.digits n := by
  intro hmem
  rw [Decimal.isDigit_of_mem_digits hmem] at h
  cases h

theorem integer?_digits (n : Nat) : integer? (Decimal.digits n) = some (Int.ofNat n) := by
  have hmark : ∀ {c : Char}, c.isDigit = false → c ∉ Decimal.digits n := fun h => not_mem_digits h n
  rw [integer?.eq_def]
  split
  · next heq => exact absurd (by rw [heq]; simp) (hmark (c := 'x') rfl)
  · next heq => exact absurd (by rw [heq]; simp) (hmark (c := 'o') rfl)
  · next heq => exact absurd (by rw [heq]; simp) (hmark (c := 'b') rfl)
  · next heq => exact absurd (by rw [heq]; simp) (hmark (c := '-') rfl)
  · next heq => exact absurd (by rw [heq]; simp) (hmark (c := '+') rfl)
  · rw [wholeDigits?_digits, Option.map_some, Decimal.value_digits]

/-- A number below two to the 64 is read from its digits. -/
theorem scalar_digits {n : Nat} (h : n < UInt64.size) :
    scalar (Decimal.digits n) = some (.integer n) := by
  have htrue : Decimal.digits n ≠ "true".toList := by
    intro heq
    exact not_mem_digits (c := 't') rfl n (heq ▸ List.mem_cons_self)
  have hfalse : Decimal.digits n ≠ "false".toList := by
    intro heq
    exact not_mem_digits (c := 'f') rfl n (heq ▸ List.mem_cons_self)
  have hwide : fitsWide (Int.ofNat n) = true := by
    have hbound : n < 2 ^ 64 := h
    have hlow : Decimal.twoTo 127 = 2 ^ 127 := rfl
    have hhigh : Decimal.twoTo 128 = 2 ^ 128 := rfl
    simp only [fitsWide, hlow, hhigh, Bool.and_eq_true, decide_eq_true_eq, Int.ofNat_eq_natCast]
    omega
  rw [scalar, if_neg htrue, if_neg hfalse, integer?_digits, Option.map_some, if_pos hwide]
  rfl

/-- A value without quotes and brackets at the end of a line. -/
theorem scalarValue_line {cs : List Char} {v : Toml} (hcs : ∀ c ∈ cs, endsScalar c = false)
    (hv : scalar cs = some v) (rest : List Char) :
    scalarValue (cs ++ '\n' :: rest) = some (v, '\n' :: rest) := by
  have htake : takeWhile (fun c => !endsScalar c) (cs ++ '\n' :: rest) = some (cs, '\n' :: rest) :=
    takeWhile_append (by simpa using hcs) (stops_cons rfl rest)
  have hmore : (if partsDate cs ('\n' :: rest) then
      takeWhile (fun c => !endsScalar c) (('\n' :: rest).drop 1) else some ([], '\n' :: rest)) =
      some ([], '\n' :: rest) := rfl
  rw [scalarValue, bind_scan htake, bind_scan hmore]
  simp only [List.isEmpty_nil, if_true, hv]
  rfl

/-! ## Values -/

/-- A text that is read as a value at the end of a line. -/
structure Writes (cs : List Char) (v : Toml) : Prop where
  starts : ∃ c more, cs = c :: more ∧ isBlank c = false
  value_line : ∀ rest, value maxDepth (cs ++ '\n' :: rest) = some (v, '\n' :: rest)

/-- A scalar starts neither quotes nor brackets. -/
theorem writes_scalar {c : Char} {cs : List Char} {v : Toml}
    (hcs : ∀ d ∈ c :: cs, endsScalar d = false) (hv : scalar (c :: cs) = some v)
    (hmark : c ≠ '"' ∧ c ≠ '\'' ∧ c ≠ '[' ∧ c ≠ '\x7b') : Writes (c :: cs) v := by
  obtain ⟨hdouble, hsingle, hbracket, hbrace⟩ := hmark
  have hc := hcs c List.mem_cons_self
  refine ⟨⟨c, cs, rfl, ?_⟩, fun rest => ?_⟩
  · simp only [endsScalar, Bool.or_eq_false_iff] at hc
    exact hc.1.1.1.1.1.1.1
  · rw [maxDepth, value, List.cons_append, bind_scan (peek_cons c _)]
    simp only [Option.some.injEq, hdouble, hsingle, hbracket, hbrace, imp_self]
    exact scalarValue_line hcs hv rest

theorem writes_bool (b : Bool) : Writes (ofBool b) (.bool b) := by
  have htrue : ofBool true = ['t', 'r', 'u', 'e'] := rfl
  have hfalse : ofBool false = ['f', 'a', 'l', 's', 'e'] := rfl
  cases b with
  | true =>
    rw [htrue]
    exact writes_scalar (by simp [endsScalar, isBlank]) rfl (by decide)
  | false =>
    rw [hfalse]
    exact writes_scalar (by simp [endsScalar, isBlank]) rfl (by decide)

theorem writes_word (n : UInt64) : Writes (ofWord n) (.integer n.toNat) := by
  have hscalar := scalar_digits n.toNat_lt_size
  obtain ⟨c, ds, hds, hc⟩ := Decimal.digits_head_isDigit n.toNat
  have hne : ∀ d ∈ c :: ds, ∀ e : Char, e.isDigit = false → d ≠ e := by
    rintro d hd e he rfl
    rw [← hds] at hd
    exact not_mem_digits he n.toNat hd
  have hends : ∀ d ∈ c :: ds, endsScalar d = false := by
    intro d hd
    simp [endsScalar, isBlank, hne d hd]
  rw [ofWord, Decimal.text, String.toList_ofList, hds]
  rw [hds] at hscalar
  have hc := hne c List.mem_cons_self
  exact writes_scalar hends hscalar ⟨hc '"' rfl, hc '\'' rfl, hc '[' rfl, hc '\x7b' rfl⟩

/-! ## Strings and arrays -/

theorem exists_quote_head (s : String) : ∃ c cs, quote s = c :: cs ∧ (c = '"' ∨ c = '\'') := by
  rw [quote]
  cases formFor s.toList with
  | basic => exact ⟨_, _, rfl, .inl rfl⟩
  | literal => exact ⟨_, _, rfl, .inr rfl⟩
  | basicLines => exact ⟨_, _, rfl, .inl rfl⟩
  | literalLines => exact ⟨_, _, rfl, .inr rfl⟩

/-- A written string is a value, whatever follows it but a quote. -/
theorem value_quote (depth : Nat) (s : String) {c : Char} (hc : c ≠ '"' ∧ c ≠ '\'') (cs : List Char) :
    value depth (quote s ++ c :: cs) = some (.text s, c :: cs) := by
  have hstring : anyString (quote s ++ c :: cs) = some (s.toList, c :: cs) :=
    anyString_quote s ⟨by simpa using hc.1, by simpa using hc.2⟩
  obtain ⟨d, ds, hhead, hd⟩ := exists_quote_head s
  rw [hhead, List.cons_append] at hstring ⊢
  cases depth <;> rcases hd with rfl | rfl
  all_goals
    rw [value, bind_scan (peek_cons _ _)]
    simp only
    rw [bind_scan hstring, pure_scan, String.ofList_toList]

theorem writes_quote (s : String) : Writes (quote s) (.text s) := by
  obtain ⟨c, cs, hhead, hc⟩ := exists_quote_head s
  refine ⟨⟨c, cs, hhead, ?_⟩, fun rest => value_quote maxDepth s (by decide) rest⟩
  rcases hc with rfl | rfl <;> rfl

/-- Space in front of a string is skipped, and nothing else. -/
theorem space_quote (s : String) (rest : List Char) :
    space (quote s ++ rest) = some ((), quote s ++ rest) := by
  obtain ⟨c, cs, hhead, hc⟩ := exists_quote_head s
  rw [hhead, List.cons_append]
  rcases hc with rfl | rfl
  · exact space_cons rfl (by decide) (by decide) _
  · exact space_cons rfl (by decide) (by decide) _

/-- A string in an array, up to the mark that parts it from the next one. -/
theorem arrayElement_quote (depth : Nat) (s : String) {c : Char} {cs rest : List Char}
    (hc : c ≠ '"' ∧ c ≠ '\'') (hspace : space (c :: cs) = some ((), c :: cs))
    (hseparator : separator ']' (c :: cs) = some ((), rest)) :
    arrayElement (value depth) (quote s ++ c :: cs) = some (some (.text s), rest) := by
  have hvalue := value_quote depth s hc cs
  have hlead := space_quote s (c :: cs)
  obtain ⟨d, ds, hhead, hd⟩ := exists_quote_head s
  rw [hhead, List.cons_append] at hvalue hlead ⊢
  have hbracket : d ≠ ']' := by rcases hd with rfl | rfl <;> decide
  rw [arrayElement, bind_scan hlead, bind_scan (peek_cons d _)]
  simp only [Option.some.injEq, hbracket, imp_self]
  rw [bind_scan hvalue, bind_scan hspace, bind_scan hseparator]
  rfl

theorem arrayElement_end (depth : Nat) (rest : List Char) :
    arrayElement (value depth) (']' :: rest) = some (none, rest) := rfl

/-- The line of a string in an array of several lines. -/
def elementLine (s : String) : List Char :=
  '\n' :: "    ".toList ++ quote s ++ [',']

theorem arrayElement_line (depth : Nat) (s : String) (rest : List Char) :
    arrayElement (value depth) (elementLine s ++ rest) = some (some (.text s), rest) := by
  have hshape : elementLine s ++ rest = '\n' :: ' ' :: ' ' :: ' ' :: ' ' :: (quote s ++ ',' :: rest) := by
    simp [elementLine]
  rw [hshape]
  exact arrayElement_quote depth s (by decide) (space_cons rfl (by decide) (by decide) rest) rfl

theorem ofTexts_lines (ss : List String) :
    '\n' :: ss.flatMap (fun s => "    ".toList ++ quote s ++ [',', '\n']) =
      ss.flatMap elementLine ++ ['\n'] := by
  induction ss with
  | nil => rfl
  | cons s ss ih => simp [elementLine, ← ih]

/-- An array is read back from any of its layouts. -/
theorem writes_texts (ss : List String) : Writes (ofTexts ss) (.array (ss.map .text)) := by
  have hread : ∀ {cs rest : List Char} {vs : List Toml},
      repeated (arrayElement (value 79)) cs = some (vs, rest) →
      value maxDepth ('[' :: cs) = some (.array vs, rest) := by
    intro cs rest vs h
    rw [maxDepth, value, bind_scan (peek_cons '[' _)]
    simp only
    rw [bind_scan (any_cons '[' cs), bind_scan h]
    rfl
  match ss with
  | [] => exact ⟨⟨'[', [']'], rfl, rfl⟩, fun rest => hread (repeated_end (arrayElement_end 79 _))⟩
  | [s] =>
    refine ⟨⟨'[', _, rfl, rfl⟩, fun rest => ?_⟩
    have hlast : arrayElement (value 79) (quote s ++ ']' :: '\n' :: rest) =
        some (some (.text s), ']' :: '\n' :: rest) :=
      arrayElement_quote 79 s (by decide) (space_cons rfl (by decide) (by decide) _) rfl
    have hlength : 0 < (quote s).length := by
      obtain ⟨c, cs, hhead, -⟩ := exists_quote_head s
      simp [hhead]
    have hitems := repeated_cons hlast (by simp; omega)
      (repeated_end (arrayElement_end 79 ('\n' :: rest)))
    simpa [ofTexts] using hread hitems
  | s :: t :: ss =>
    refine ⟨⟨'[', _, rfl, rfl⟩, fun rest => ?_⟩
    have hend : arrayElement (value 79) ('\n' :: ']' :: '\n' :: rest) = some (none, '\n' :: rest) := rfl
    have hline : ∀ a ∈ s :: t :: ss, elementLine a ≠ [] ∧ ∀ more,
        arrayElement (value 79) (elementLine a ++ more) = some (some (.text a), more) :=
      fun a _ => ⟨by simp [elementLine], arrayElement_line 79 a⟩
    have hitems := repeated_pieces hline hend
    have hshape : ofTexts (s :: t :: ss) ++ '\n' :: rest =
        '[' :: ((s :: t :: ss).flatMap elementLine ++ '\n' :: ']' :: '\n' :: rest) := by
      change '[' :: ('\n' :: (s :: t :: ss).flatMap _ ++ [']'] ++ '\n' :: rest) = _
      rw [ofTexts_lines]
      simp
    rw [hshape]
    exact hread hitems

/-! ## Statements -/

theorem statement_line (cs : List Char) : statement ('\n' :: cs) = statement cs := rfl

/-- The header of a key on a line of its own. -/
theorem statement_header {cs rest : List Char} {path : List String} {name : String}
    (hstart : ∃ c more, cs = c :: more ∧ isKeyChar c = true)
    (hkey : key (cs ++ ']' :: '\n' :: rest) = some ((path, name), ']' :: '\n' :: rest)) :
    statement ('[' :: (cs ++ ']' :: '\n' :: rest)) = some (some (.table path name), rest) := by
  obtain ⟨c, more, rfl, hc⟩ := hstart
  have hheader : header (c :: more ++ ']' :: '\n' :: rest) = some (.table path name, '\n' :: rest) := by
    have hbracket : c ≠ '[' := ne_of_isKeyChar hc (by decide)
    rw [List.cons_append] at hkey ⊢
    rw [header, bind_scan (peek_cons c _)]
    simp only [Option.some.injEq, hbracket, imp_self]
    rw [bind_scan (blanks_stops (stops_cons (isBlank_of_isKeyChar hc) _)), bind_scan hkey,
      bind_scan (char_cons ']' _)]
    rfl
  have hspace : ∀ cs : List Char, space ('[' :: cs) = some ((), '[' :: cs) :=
    space_cons rfl (by decide) (by decide)
  rw [statement, bind_scan (hspace _), bind_scan (peek_cons '[' _)]
  simp only
  rw [bind_scan (any_cons '[' _), bind_scan hheader]
  rfl

/-- The header of a section: one name, or two with a point between them. -/
theorem statement_section {first second : String} (hfirst : Bare first) (hsecond : Bare second)
    (rest : List Char) :
    statement ('[' :: ((first.toList ++ '.' :: second.toList) ++ ']' :: '\n' :: rest)) =
        some (some (.table [first] second), rest) ∧
      statement ('[' :: (first.toList ++ ']' :: '\n' :: rest)) =
        some (some (.table [] first), rest) := by
  obtain ⟨c, more, hname, hc⟩ := hfirst.exists_head
  constructor
  · refine statement_header ⟨c, more ++ '.' :: second.toList, by simp [hname], hc⟩ ?_
    rw [List.append_assoc, List.cons_append]
    exact key_dotted hfirst hsecond rfl rfl (by decide) _
  · exact statement_header ⟨c, more, hname, hc⟩ (key_bare hfirst rfl rfl (by decide) _).1

/-- A setting on a line of its own. -/
theorem statement_settingLine {name : String} (h : Bare name) {cs : List Char} {v : Toml}
    (hv : Writes cs v) (rest : List Char) :
    statement (settingLine name cs ++ rest) = some (some (.entry [] name v), rest) := by
  have hvalue := hv.value_line rest
  obtain ⟨d, ds, rfl, hd⟩ := hv.starts
  have hkey := (key_bare h (c := '=') rfl rfl (by decide) (' ' :: d :: ds ++ '\n' :: rest)).2
  obtain ⟨c, more, hname, hc⟩ := h.exists_head
  have hline : settingLine name (d :: ds) ++ rest =
      name.toList ++ ' ' :: '=' :: (' ' :: d :: ds ++ '\n' :: rest) := by
    simp [settingLine]
  have hbracket : c ≠ '[' := ne_of_isKeyChar hc (by decide)
  have hspace := space_cons (isBlank_of_isKeyChar hc)
    ⟨ne_of_isKeyChar (d := '\n') hc (by decide), ne_of_isKeyChar (d := '\r') hc (by decide)⟩
    (ne_of_isKeyChar (d := '#') hc (by decide))
  have hgap : ∀ cs : List Char, Toml.blanks ('=' :: cs) = some ((), '=' :: cs) :=
    fun cs => blanks_stops (stops_cons rfl cs)
  have hafter : Toml.blanks (' ' :: d :: ds ++ '\n' :: rest) = some ((), d :: ds ++ '\n' :: rest) :=
    blanks_stops (stops_cons hd _)
  have hentry : entry Toml.blanks (value maxDepth) (settingLine name (d :: ds) ++ rest) =
      some ((([], name), v), '\n' :: rest) := by
    rw [hline, entry, bind_scan hkey, bind_scan (hgap _), bind_scan (char_cons '=' _),
      bind_scan hafter, bind_scan hvalue]
    rfl
  rw [hline, hname, List.cons_append] at hentry ⊢
  rw [statement, bind_scan (hspace _), bind_scan (peek_cons c _)]
  simp only
  rw [bind_scan hentry]
  rfl

end Toml
end ClusterReads
