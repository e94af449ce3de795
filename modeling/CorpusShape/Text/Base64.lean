import CorpusShape.Text.Printable
import CorpusShape.Text.Quoted
/-!
# Bytes in texts

Bytes written with 64 letters, and bytes shown between quotes.
-/
namespace CorpusShape.Text

/-- The number that a letter of the alphabet stands for. -/
def sixBits? (c : Char) : Option Nat :=
  if 'A' ≤ c && c ≤ 'Z' then some (c.toNat - 65)
  else if 'a' ≤ c && c ≤ 'z' then some (c.toNat - 71)
  else if c.isDigit then some (c.toNat + 4)
  else if c == '+' then some 62
  else if c == '/' then some 63
  else none

/-- Reads letters in groups of four. Other characters are passed over. `held` is the number of letters of the
present group, `rest` the bits of them that are not yet part of a byte, and `pads` counts the signs that fill up
the group, which end the text. -/
def base64From (held rest pads : Nat) (done : List UInt8) : List Char → Option (List UInt8)
  | [] => if held == 0 then some done.reverse else none
  | c :: cs =>
    if c == '=' then
      if 2 ≤ held && 4 ≤ held + pads + 1 then some done.reverse
      else base64From held rest (if 2 ≤ held then pads + 1 else pads) done cs
    else
      match sixBits? c, held with
      | none, _ => base64From held rest pads done cs
      | some n, 0 => base64From 1 n 0 done cs
      | some n, 1 => base64From 2 (n % 16) 0 (UInt8.ofNat (rest * 4 + n / 16) :: done) cs
      | some n, 2 => base64From 3 (n % 4) 0 (UInt8.ofNat (rest * 16 + n / 4) :: done) cs
      | some n, _ => base64From 0 0 0 (UInt8.ofNat (rest * 64 + n) :: done) cs

def ofBase64? (cs : List Char) : Option (List UInt8) := base64From 0 0 0 [] cs

/-- Bytes between quotes, those that are no visible characters by their codes. -/
def quotedBytes (bytes : List UInt8) : String :=
  let cs := bytes.map fun b => Char.ofNat b.toNat
  let mark := quoteMark (String.ofList cs)
  let one (c : Char) : List Char :=
    if 0x7f ≤ c.toNat then '\\' :: 'x' :: hexText 2 c.toNat else quotedChar mark c
  String.ofList ('b' :: mark :: cs.flatMap one ++ [mark])

end CorpusShape.Text
