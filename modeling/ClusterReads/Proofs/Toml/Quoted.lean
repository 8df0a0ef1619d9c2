import ClusterReads.Toml.Quoted

/-!
# TOML strings read back

The writer chooses one of four forms for a text, and the reader takes each of them for the text. Main
statement: a written string is read back whatever follows it, as long as that is no quote.
-/
namespace ClusterReads
namespace Toml

/-! ## Characters of basic text -/

/-- An escape and the character it stands for. -/
inductive Escapes : List Char → Char → Prop
  | short {e c : Char} : unescape? e = some c → Escapes ['\\', e] c
  | code {a b d e c : Char} : short? a b d e = some c → Escapes ['\\', 'u', a, b, d, e] c

/-- A character that stands for itself, a line feed only in text of several lines. -/
structure Plain (lines : Bool) (c : Char) : Prop where
  not_quote : c ≠ '"'
  not_backslash : c ≠ '\\'
  not_control : isControl c = false
  line : c = '\n' → lines = true

theorem hexValue?_upperHexDigit {n : Nat} (h : n < 16) :
    Json.hexValue? (upperHexDigit n) = some n := by
  have hall : ∀ n : Fin 16, Json.hexValue? (upperHexDigit n) = some n.val := by decide
  exact hall ⟨n, h⟩

/-- A control character by the two digits of its code. -/
theorem short?_upperHexDigit {c : Char} (h : c.toNat < 256) :
    short? '0' '0' (upperHexDigit (c.toNat / 16)) (upperHexDigit (c.toNat % 16)) = some c := by
  have hzero : Json.hexValue? '0' = some 0 := by decide
  have hvalue : Json.hexValue4? '0' '0' (upperHexDigit (c.toNat / 16))
      (upperHexDigit (c.toNat % 16)) = some c.toNat := by
    simp only [Json.hexValue4?, hzero, hexValue?_upperHexDigit (n := c.toNat / 16) (by omega),
      hexValue?_upperHexDigit (n := c.toNat % 16) (by omega), Option.bind_eq_bind, Option.bind_some,
      Option.pure_def, Option.some.injEq]
    omega
  have hvalid : c.toNat.isValidChar := c.valid
  simp only [short?, hvalue, Option.bind_eq_bind, Option.bind_some, scalar?, if_pos hvalid,
    Char.ofNat_toNat]

/-- What the writer makes of a character: a quote that may stand, an escape, or the character. -/
theorem basicChars_cons (spare : Nat) (lines : Bool) (run : Nat) (c : Char) (cs : List Char) :
    (c = '"' ∧ run < spare ∧
        basicChars spare lines run (c :: cs) = '"' :: basicChars spare lines (run + 1) cs) ∨
      (∃ e, Escapes e c ∧ basicChars spare lines run (c :: cs) = e ++ basicChars spare lines 0 cs) ∨
      Plain lines c ∧ basicChars spare lines run (c :: cs) = c :: basicChars spare lines 0 cs := by
  have hshort : ∀ {e : Char} {out : List Char}, unescape? e = some c →
      out = ['\\', e] ++ basicChars spare lines 0 cs →
      ∃ e, Escapes e c ∧ out = e ++ basicChars spare lines 0 cs :=
    fun he hout => ⟨_, .short he, hout⟩
  rw [basicChars]
  split
  · next hquote =>
    split
    · next hrun => exact .inl ⟨hquote, hrun, rfl⟩
    · exact .inr (.inl (hshort (e := '"') (by subst hquote; rfl) rfl))
  split
  · next h => exact .inr (.inl (hshort (e := 'b') (by subst h; rfl) rfl))
  split
  · next h => exact .inr (.inl (hshort (e := 't') (by subst h; rfl) rfl))
  split
  · next h =>
    split
    · next hlines =>
      subst h
      exact .inr (.inr ⟨⟨by decide, by decide, by decide, fun _ => hlines⟩, rfl⟩)
    · exact .inr (.inl (hshort (e := 'n') (by subst h; rfl) rfl))
  split
  · next h => exact .inr (.inl (hshort (e := 'f') (by subst h; rfl) rfl))
  split
  · next h => exact .inr (.inl (hshort (e := 'r') (by subst h; rfl) rfl))
  split
  · next h => exact .inr (.inl (hshort (e := '\\') (by subst h; rfl) rfl))
  split
  · next h => exact .inr (.inl ⟨_, .code (short?_upperHexDigit (c := c) (by omega)), rfl⟩)
  · next hquote _ _ hline _ _ hslash hcontrol =>
    refine .inr (.inr ⟨⟨hquote, hslash, ?_, fun h => absurd h hline⟩, rfl⟩)
    simp only [isControl, Bool.or_eq_false_iff, Bool.and_eq_false_iff, decide_eq_false_iff_not]
    omega

/-! ## Basic text -/

/-- The letters of longer escapes are no short ones. -/
theorem unescape?_long {e c : Char} (h : unescape? e = some c) : e ≠ 'x' ∧ e ≠ 'u' ∧ e ≠ 'U' := by
  refine ⟨?_, ?_, ?_⟩
  all_goals
    rintro rfl
    revert h
    simp [unescape?]

theorem basicBody_escape {e : List Char} {c : Char} (h : Escapes e c) (rest : List Char) :
    basicBody (e ++ rest) = consChar c (basicBody rest) := by
  cases h with
  | short he =>
    obtain ⟨hx, hu, hlong⟩ := unescape?_long he
    simp [basicBody, he, hx, hu, hlong]
  | code hcode => simp [basicBody, hcode]

theorem basicBody_plain {c : Char} (h : Plain false c) (rest : List Char) :
    basicBody (c :: rest) = consChar c (basicBody rest) := by
  have hline : c ≠ '\n' := fun heq => by cases h.line heq
  simp [basicBody, h.not_quote, h.not_backslash, h.not_control, hline]

theorem basicBody_basicChars (run : Nat) (cs rest : List Char) :
    basicBody (basicChars 0 false run cs ++ '"' :: rest) = some (cs, rest) := by
  induction cs generalizing run with
  | nil => rfl
  | cons c cs ih =>
    obtain ⟨-, hrun, -⟩ | ⟨e, he, hout⟩ | ⟨hplain, hout⟩ := basicChars_cons 0 false run c cs
    · exact absurd hrun (Nat.not_lt_zero run)
    · rw [hout, List.append_assoc, basicBody_escape he, ih]
      rfl
    · rw [hout, List.cons_append, basicBody_plain hplain, ih]
      rfl

/-! ## Basic text of several lines -/

theorem basicLinesBody_escape {e : List Char} {c : Char} (h : Escapes e c) (rest : List Char) :
    basicLinesBody false (e ++ rest) = consChar c (basicLinesBody false rest) := by
  cases h with
  | short he =>
    obtain ⟨hx, hu, hlong⟩ := unescape?_long he
    simp [basicLinesBody, he, hx, hu, hlong]
  | code hcode => simp [basicLinesBody, hcode]

/-- A carriage return is a control character. -/
theorem ne_return {c : Char} (h : isControl c = false) : c ≠ '\r' := by
  rintro rfl
  cases h

theorem basicLinesBody_plain {c : Char} (h : Plain true c) (rest : List Char) :
    basicLinesBody false (c :: rest) = consChar c (basicLinesBody false rest) := by
  simp [basicLinesBody, h.not_quote, h.not_backslash, h.not_control, ne_return h.not_control]

/-- A quote that starts no closing quotes. -/
theorem basicLinesBody_quote {rest : List Char} (h : ∀ more, rest ≠ '"' :: '"' :: more) :
    basicLinesBody false ('"' :: rest) = consChar '"' (basicLinesBody false rest) := by
  have hcontrol : isControl '"' = false := by decide
  simp [basicLinesBody, h, hcontrol]

/-- Closing quotes with one or two quotes in front of them that belong to the text. -/
theorem basicLinesBody_closing {rest : List Char} (hrest : rest.head? ≠ some '"') :
    basicLinesBody false (tripleDouble ++ rest) = some ([], rest) ∧
      basicLinesBody false ('"' :: (tripleDouble ++ rest)) = some (['"'], rest) ∧
      basicLinesBody false ('"' :: '"' :: (tripleDouble ++ rest)) = some (['"', '"'], rest) := by
  have hquote : ∀ more, rest ≠ '"' :: more := by
    rintro more rfl
    exact hrest rfl
  refine ⟨?_, ?_, ?_⟩
  · simp [basicLinesBody, tripleDouble, hquote]
  · simp [basicLinesBody, tripleDouble]
  · simp [basicLinesBody, tripleDouble]

/-- What the writer makes of a text does not start with a quote if no quote may stand there. -/
theorem basicChars_head {spare run : Nat} {lines : Bool} {c : Char} {cs rest : List Char}
    (h : c ≠ '"' ∨ spare ≤ run) (more : List Char) :
    basicChars spare lines run (c :: cs) ++ rest ≠ '"' :: more := by
  obtain ⟨hc, hrun, -⟩ | ⟨e, he, hout⟩ | ⟨hplain, hout⟩ := basicChars_cons spare lines run c cs
  · rcases h with h | h
    · exact absurd hc h
    · omega
  · rw [hout]
    cases he <;> simp
  · rw [hout]
    simp [hplain.not_quote]

/-- Behind a quote, two more come only at the end of the text. -/
theorem basicChars_not_closing {run : Nat} (hrun : 1 ≤ run) {cs : List Char} (hcs : cs ≠ [])
    (hone : cs = ['"'] → 2 ≤ run) (rest more : List Char) :
    basicChars 2 true run cs ++ rest ≠ '"' :: '"' :: more := by
  cases cs with
  | nil => exact absurd rfl hcs
  | cons d ds =>
    by_cases hd : d ≠ '"' ∨ 2 ≤ run
    · exact basicChars_head hd ('"' :: more)
    obtain ⟨rfl, hlow⟩ : d = '"' ∧ run < 2 := by simpa using hd
    cases ds with
    | nil => exact absurd (hone rfl) (by omega)
    | cons f fs =>
      obtain rfl : run = 1 := by omega
      have hout : basicChars 2 true 1 ('"' :: f :: fs) = '"' :: basicChars 2 true 2 (f :: fs) := by
        simp [basicChars]
      intro heq
      rw [hout, List.cons_append] at heq
      exact basicChars_head (.inr (Nat.le_refl 2)) more (List.cons.inj heq).2

/-- Text of several lines is read up to its closing quotes, also if quotes of its own stand before
them. -/
theorem basicLinesBody_basicChars {run : Nat} (hrun : run ≤ 2) (cs : List Char) {rest : List Char}
    (hrest : rest.head? ≠ some '"') :
    basicLinesBody false (basicChars 2 true run cs ++ (tripleDouble ++ rest)) = some (cs, rest) := by
  obtain ⟨hclosing, hone, htwo⟩ := basicLinesBody_closing hrest
  induction cs generalizing run with
  | nil => exact hclosing
  | cons c cs ih =>
    obtain ⟨rfl, hspare, hout⟩ | ⟨e, he, hout⟩ | ⟨hplain, hout⟩ := basicChars_cons 2 true run c cs
    · rw [hout, List.cons_append]
      by_cases hnil : cs = []
      · subst hnil
        exact hone
      by_cases hlast : cs = ['"'] ∧ run + 1 < 2
      · obtain ⟨rfl, hlast⟩ := hlast
        obtain rfl : run = 0 := by omega
        exact htwo
      · have hnot : ∀ more, basicChars 2 true (run + 1) cs ++ (tripleDouble ++ rest) ≠
            '"' :: '"' :: more :=
          basicChars_not_closing (Nat.le_add_left 1 run) hnil
            (fun h => Nat.le_of_not_lt fun hlt => hlast ⟨h, hlt⟩) (tripleDouble ++ rest)
        rw [basicLinesBody_quote hnot, ih hspare]
        rfl
    · rw [hout, List.append_assoc, basicLinesBody_escape he, ih (Nat.zero_le 2)]
      rfl
    · rw [hout, List.cons_append, basicLinesBody_plain hplain, ih (Nat.zero_le 2)]
      rfl

/-! ## Literal text -/

theorem literalBody_append {cs : List Char} (hcontrol : ∀ c ∈ cs, isControl c = false)
    (hquote : '\'' ∉ cs) (hline : '\n' ∉ cs) (rest : List Char) :
    literalBody (cs ++ '\'' :: rest) = some (cs, rest) := by
  induction cs with
  | nil => rfl
  | cons c cs ih =>
    simp only [List.mem_cons, not_or, forall_eq_or_imp] at hcontrol hquote hline
    have hc : c ≠ '\'' := fun h => hquote.1 h.symm
    have hn : c ≠ '\n' := fun h => hline.1 h.symm
    rw [List.cons_append, literalBody, ih hcontrol.2 hquote.2 hline.2,
      if_neg (by simp [hcontrol.1, hn])]
    · rfl
    · exact hc

/-! ## Runs of quotes -/

theorem le_longestRun (c : Char) (run best : Nat) (cs : List Char) :
    best ≤ longestRun c run best cs := by
  induction cs generalizing run best with
  | nil => exact Nat.le_refl best
  | cons d cs ih =>
    rw [longestRun]
    split
    · exact Nat.le_trans (Nat.le_max_left _ _) (ih _ _)
    · exact ih _ _

/-- A character with no run does not occur. -/
theorem not_mem_of_longestRun {c : Char} {run best : Nat} {cs : List Char}
    (h : longestRun c run best cs = 0) : c ∉ cs := by
  induction cs generalizing run best with
  | nil => simp
  | cons d cs ih =>
    rw [longestRun] at h
    split at h
    · have := le_longestRun c (run + 1) (max best (run + 1)) cs
      omega
    · next hne =>
      simp only [List.mem_cons, not_or]
      exact ⟨fun heq => hne heq.symm, ih h⟩

theorem longestRun_mono (c : Char) {run run' best best' : Nat} (hrun : run ≤ run')
    (hbest : best ≤ best') (cs : List Char) :
    longestRun c run best cs ≤ longestRun c run' best' cs := by
  induction cs generalizing run run' best best' with
  | nil => exact hbest
  | cons d cs ih =>
    rw [longestRun, longestRun]
    split
    · exact ih (by omega) (by omega)
    · exact ih (Nat.le_refl 0) hbest

/-- The rest of a text has no longer runs than the text. -/
theorem longestRun_tail {c d : Char} {cs : List Char} {k : Nat}
    (h : longestRun c 0 0 (d :: cs) ≤ k) : longestRun c 0 0 cs ≤ k := by
  refine Nat.le_trans ?_ h
  rw [longestRun]
  split
  · exact longestRun_mono c (Nat.zero_le _) (Nat.zero_le _) cs
  · exact Nat.le_refl _

/-- Where no more than two quotes stand in a row, a quote starts closing quotes only at the end. -/
theorem literalLinesBody_quote {cs rest : List Char} (hrun : longestRun '\'' 0 0 ('\'' :: cs) ≤ 2)
    (hcs : cs ≠ []) (hone : cs ≠ ['\'']) :
    literalLinesBody ('\'' :: (cs ++ rest)) = consChar '\'' (literalLinesBody (cs ++ rest)) := by
  have hnot : ∀ more, cs ++ rest ≠ '\'' :: '\'' :: more := by
    intro more heq
    match cs, hcs, hone with
    | [c], _, hone =>
      obtain rfl : c = '\'' := (List.cons.inj heq).1
      exact hone rfl
    | c :: d :: ds, _, _ =>
      injection heq with hc heq
      injection heq with hd heq
      subst hc hd
      have hthree := le_longestRun '\'' 3 3 ds
      change longestRun '\'' 3 3 ds ≤ 2 at hrun
      omega
  have hcontrol : isControl '\'' = false := by decide
  simp [literalLinesBody, hnot, hcontrol]

theorem literalLinesBody_plain {c : Char} (hquote : c ≠ '\'') (hcontrol : isControl c = false)
    (rest : List Char) : literalLinesBody (c :: rest) = consChar c (literalLinesBody rest) := by
  simp [literalLinesBody, hquote, hcontrol, ne_return hcontrol]

/-- Closing quotes with one or two quotes in front of them that belong to the text. -/
theorem literalLinesBody_closing {rest : List Char} (hrest : rest.head? ≠ some '\'') :
    literalLinesBody (tripleSingle ++ rest) = some ([], rest) ∧
      literalLinesBody ('\'' :: (tripleSingle ++ rest)) = some (['\''], rest) ∧
      literalLinesBody ('\'' :: '\'' :: (tripleSingle ++ rest)) = some (['\'', '\''], rest) := by
  have hquote : ∀ more, rest ≠ '\'' :: more := by
    rintro more rfl
    exact hrest rfl
  refine ⟨?_, ?_, ?_⟩
  · simp [literalLinesBody, tripleSingle, hquote]
  · simp [literalLinesBody, tripleSingle]
  · simp [literalLinesBody, tripleSingle]

theorem literalLinesBody_append {cs : List Char} (hcontrol : ∀ c ∈ cs, isControl c = false)
    (hrun : longestRun '\'' 0 0 cs ≤ 2) {rest : List Char} (hrest : rest.head? ≠ some '\'') :
    literalLinesBody (cs ++ (tripleSingle ++ rest)) = some (cs, rest) := by
  obtain ⟨hclosing, hone, htwo⟩ := literalLinesBody_closing hrest
  induction cs with
  | nil => exact hclosing
  | cons c cs ih =>
    rw [List.forall_mem_cons] at hcontrol
    have hrest := ih hcontrol.2 (longestRun_tail hrun)
    by_cases hc : c = '\''
    · subst hc
      by_cases hnil : cs = []
      · subst hnil
        exact hone
      by_cases hlast : cs = ['\'']
      · subst hlast
        exact htwo
      rw [List.cons_append, literalLinesBody_quote hrun hnil hlast, hrest]
      rfl
    · rw [List.cons_append, literalLinesBody_plain hc hcontrol.1, hrest]
      rfl

/-! ## Forms -/

/-- The text behind an opening triple quote and its line feed, if one was put there. -/
theorem dropLineEnd_openingLine {cs text : List Char}
    (h : '\n' ∉ cs → ∀ c, text.head? = some c → c ≠ '\n' ∧ c ≠ '\r') :
    dropLineEnd (openingLine cs ++ text) = text := by
  rw [openingLine]
  split
  · rfl
  · next hline =>
    have hhead := h (by simpa using hline)
    rw [List.nil_append]
    cases text with
    | nil => rfl
    | cons c more =>
      obtain ⟨hn, hr⟩ := hhead c rfl
      simp [dropLineEnd, hn, hr]

theorem anyString_basic (cs : List Char) {rest : List Char} (hrest : rest.head? ≠ some '"') :
    anyString (quoteAs cs .basic ++ rest) = some (cs, rest) := by
  have hbody := basicBody_basicChars 0 cs rest
  have hnot : ∀ more, basicChars 0 false 0 cs ++ '"' :: rest ≠ '"' :: '"' :: more := by
    intro more heq
    cases cs with
    | nil =>
      obtain rfl : rest = '"' :: more := (List.cons.inj heq).2
      exact hrest rfl
    | cons c cs => exact basicChars_head (.inr (Nat.le_refl 0)) ('"' :: more) heq
  rw [quoteAs, List.cons_append, List.append_assoc, List.singleton_append, anyString, lineString,
    hbody]
  · exact fun more heq => hnot more (List.cons.inj heq).2
  · simp

theorem anyString_literal {cs : List Char} (hne : cs ≠ []) (hcontrol : ∀ c ∈ cs, isControl c = false)
    (hquote : '\'' ∉ cs) (hline : '\n' ∉ cs) (rest : List Char) :
    anyString (quoteAs cs .literal ++ rest) = some (cs, rest) := by
  have hbody := literalBody_append hcontrol hquote hline rest
  have hnot : ∀ more, cs ++ '\'' :: rest ≠ '\'' :: '\'' :: more := by
    intro more heq
    cases cs with
    | nil => exact hne rfl
    | cons c cs =>
      obtain rfl : c = '\'' := (List.cons.inj heq).1
      exact hquote List.mem_cons_self
  rw [quoteAs, List.cons_append, List.append_assoc, List.singleton_append, anyString, lineString,
    hbody]
  · simp
  · exact fun more heq => hnot more (List.cons.inj heq).2

theorem anyString_basicLines (cs : List Char) {rest : List Char} (hrest : rest.head? ≠ some '"') :
    anyString (quoteAs cs .basicLines ++ rest) = some (cs, rest) := by
  have hbody := basicLinesBody_basicChars (Nat.zero_le 2) cs hrest
  have hopening : dropLineEnd (openingLine cs ++ (basicChars 2 true 0 cs ++ (tripleDouble ++ rest))) =
      basicChars 2 true 0 cs ++ (tripleDouble ++ rest) :=
    dropLineEnd_openingLine (by
      intro hline c hc
      cases cs with
      | nil =>
        obtain rfl : '"' = c := Option.some.inj hc
        decide
      | cons d ds =>
        obtain ⟨-, -, hout⟩ | ⟨e, he, hout⟩ | ⟨hplain, hout⟩ := basicChars_cons 2 true 0 d ds
        · rw [hout] at hc
          obtain rfl : '"' = c := Option.some.inj hc
          decide
        · rw [hout] at hc
          cases he <;>
          · obtain rfl : '\\' = c := Option.some.inj hc
            decide
        · rw [hout] at hc
          obtain rfl : d = c := Option.some.inj hc
          refine ⟨?_, ne_return hplain.not_control⟩
          rintro rfl
          exact hline List.mem_cons_self)
  have hshape : quoteAs cs .basicLines ++ rest =
      '"' :: '"' :: '"' :: (openingLine cs ++ (basicChars 2 true 0 cs ++ (tripleDouble ++ rest))) := by
    simp [quoteAs, tripleDouble]
  rw [hshape, anyString, hopening, hbody]

theorem anyString_literalLines {cs : List Char} (hcontrol : ∀ c ∈ cs, isControl c = false)
    (hrun : longestRun '\'' 0 0 cs ≤ 2) {rest : List Char} (hrest : rest.head? ≠ some '\'') :
    anyString (quoteAs cs .literalLines ++ rest) = some (cs, rest) := by
  have hbody := literalLinesBody_append hcontrol hrun hrest
  have hopening : dropLineEnd (openingLine cs ++ (cs ++ (tripleSingle ++ rest))) =
      cs ++ (tripleSingle ++ rest) :=
    dropLineEnd_openingLine (by
      intro hline c hc
      cases cs with
      | nil =>
        obtain rfl : '\'' = c := Option.some.inj hc
        decide
      | cons d ds =>
        obtain rfl : d = c := Option.some.inj hc
        refine ⟨?_, ne_return (hcontrol d List.mem_cons_self)⟩
        rintro rfl
        exact hline List.mem_cons_self)
  have hshape : quoteAs cs .literalLines ++ rest =
      '\'' :: '\'' :: '\'' :: (openingLine cs ++ (cs ++ (tripleSingle ++ rest))) := by
    simp [quoteAs, tripleSingle]
  rw [hshape, anyString, hopening, hbody]

/-- A written string is read back, and what follows it is left. -/
theorem anyString_quote (s : String) {rest : List Char}
    (hrest : rest.head? ≠ some '"' ∧ rest.head? ≠ some '\'') :
    anyString (quote s ++ rest) = some (s.toList, rest) := by
  rw [quote, formFor]
  split
  · exact anyString_basic s.toList hrest.1
  split
  · next hbasic hliteral =>
    have hne : s.toList ≠ [] := by
      intro hnil
      rw [hnil] at hbasic
      exact hbasic rfl
    simp only [Bool.and_eq_true, Bool.not_eq_true', List.any_eq_false, decide_eq_true_eq,
      List.contains_eq_mem, decide_eq_false_iff_not, Bool.not_eq_true] at hliteral
    obtain ⟨⟨hcontrol, hruns⟩, hline⟩ := hliteral
    exact anyString_literal hne hcontrol (not_mem_of_longestRun hruns) hline rest
  split
  · exact anyString_basicLines s.toList hrest.1
  split
  · next hliteral =>
    simp only [Bool.and_eq_true, Bool.not_eq_true', List.any_eq_false, decide_eq_true_eq,
      Bool.not_eq_true] at hliteral
    exact anyString_literalLines hliteral.1 hliteral.2 hrest.2
  split
  · exact anyString_basicLines s.toList hrest.1
  · exact anyString_basic s.toList hrest.1

end Toml
end ClusterReads
