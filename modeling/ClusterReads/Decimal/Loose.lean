import ClusterReads.Decimal.Literal
import ClusterReads.Text.Pieces

/-!
# Numbers in free form

A double as it may be written by hand: digits with at most one point anywhere among them, a sign and an
exponent, or a word for what no digits can say.
-/
namespace ClusterReads
namespace Decimal

/-- A finite decimal: digits with at most one point, at least one digit, and maybe an exponent. -/
def looseLiteral? (cs : List Char) : Option Literal := do
  let (negative, cs) := splitSign cs
  let (mantissa, power) := Text.cutAt (fun c => c = 'e' || c = 'E') cs
  let (whole, fraction) := Text.cutAt (· = '.') mantissa
  let fs := fraction.getD []
  if (whole.isEmpty && fs.isEmpty) || !whole.all Char.isDigit || !fs.all Char.isDigit then none
  else
    match power with
    | none => return ⟨negative, value whole, fs, none⟩
    | some es =>
      let (down, es) := splitSign es
      if es.isEmpty || !es.all Char.isDigit then none
      else
        let e : Int := value es
        return ⟨negative, value whole, fs, some (if down then -e else e)⟩

/-- A double, with the words for what no digits can say in any case. -/
def loose? (cs : List Char) : Option Float :=
  match looseLiteral? cs with
  | some l => some l.nearest
  | none =>
    let (negative, cs) := splitSign cs
    let word := String.ofList (cs.map Char.toLower)
    let signed (x : Float) : Float := if negative then -x else x
    if word = "inf" || word = "infinity" then some (signed (1 / 0))
    else if word = "nan" then some (signed (0 / 0))
    else none

example : (looseLiteral? "-.5e+1".toList).isSome = true := by decide +kernel
example : looseLiteral? ".".toList = none := by decide +kernel

end Decimal
end ClusterReads
