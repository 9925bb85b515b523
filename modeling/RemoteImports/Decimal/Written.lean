import RemoteImports.Decimal.Shortest
import RemoteImports.Text.Ascii

/-!
# Numbers as text

How a finite number in binary64 is written: with its shortest digits, at least one of them
behind the point, and with an exponent once the point lies more than sixteen digits behind
the first digit or more than four zeros before it.
-/

namespace RemoteImports
namespace Decimal

def positional (d : Digits) : List Char :=
  if d.point <= 0 then
    ['0', '.'] ++ List.replicate (-d.point).toNat '0' ++ d.digits
  else
    let whole := d.digits.take d.point.toNat
    let fraction := d.digits.drop d.point.toNat
    whole ++ List.replicate (d.point.toNat - d.digits.length) '0' ++ '.' ::
      (if fraction.isEmpty then ['0'] else fraction)

def scientific (d : Digits) : List Char :=
  let exponent := d.point - 1
  let mantissa := match d.digits with
    | [] => []
    | [digit] => [digit]
    | digit :: digits => digit :: '.' :: digits
  mantissa ++ 'e' :: (if exponent < 0 then '-' else '+') :: Text.decimal exponent.natAbs

def written (x : Float) : String :=
  let bits := x.toBits.toNat
  let magnitude := bits % Nat.pow 2 63
  let sign := if bits / Nat.pow 2 63 = 1 then ['-'] else []
  let body :=
    if magnitude = 0 then ['0', '.', '0']
    else
      let d := shortest magnitude
      if -5 < d.point ∧ d.point <= 16 then positional d else scientific d
  String.ofList (sign ++ body)

end Decimal
end RemoteImports
