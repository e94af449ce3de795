import CorpusShape.Console.PictureNames
import CorpusShape.Console.Wrap
/-!
# Pictures

A name between two colons stands for a picture, if there is one of that name. The name ends with the first colon
after it and holds no blanks; capital letters make no difference. At its end it may say which form of the picture
is meant. A name that stands for nothing is left, and its last colon starts no other name.
-/
namespace CorpusShape.Console

/-- The parts of a text between colons. -/
def colonParts : List Char → List (List Char)
  | [] => [[]]
  | c :: rest =>
    if c == ':' then [] :: colonParts rest
    else
      match colonParts rest with
      | [] => [[c]]
      | p :: ps => (c :: p) :: ps

/-- The part after a name, where names and pictures stand in turn. -/
def pictureIn? (name : List Char) : List (List Char) → Option (List Char)
  | n :: picture :: rest => if n == name then some picture else pictureIn? name rest
  | _ => none

/-- The picture of a name in a table. -/
def tablePicture? (table : List String) (name : List Char) : Option (List Char) :=
  table.findSome? fun line => pictureIn? name (colonParts line.toList)

/-- The tones of skin, with the marks for them. -/
def tones : List (List Char × Char) :=
  [("_light_skin_tone".toList, '🏻'), ("_medium-light_skin_tone".toList, '🏼'), ("_medium_skin_tone".toList, '🏽'),
   ("_medium-dark_skin_tone".toList, '🏾'), ("_dark_skin_tone".toList, '🏿')]

/-- The mark of a form in colour, as pictures have it. -/
def colourMark : Char := '\ufe0f'

/-- The mark of a form in black and white, as texts have it. -/
def textMark : Char := '\ufe0e'

/-- Puts the mark of a tone after the first character, in the place of a mark for colour. -/
def withTone (tone : Char) : List Char → List Char
  | [] => []
  | c :: rest => c :: tone :: (if rest.head? == some colourMark then rest.drop 1 else rest)

/-- The text before an end. -/
def before? (end_ cs : List Char) : Option (List Char) :=
  if end_.isSuffixOf cs then some (cs.take (cs.length - end_.length)) else none

/-- The picture of a name in one of the tones. -/
def tonedPicture? (name : List Char) : Option (List Char) :=
  tones.findSome? fun (tone, mark) => do
    return withTone mark (← tablePicture? tonedPictures (← before? tone name))

/-- The small form of the letters that occur in names. -/
def smallLetter : Char → Char
  | 'Ã' => 'ã'
  | 'Å' => 'å'
  | 'Ç' => 'ç'
  | 'É' => 'é'
  | 'Í' => 'í'
  | 'Ô' => 'ô'
  -- The signs for Kelvin and Ångström.
  | '\u212a' => 'k'
  | '\u212b' => 'å'
  | c => c.toLower

/-- The picture of a name. -/
def namedPicture? (name : List Char) : Option (List Char) :=
  let name := name.map smallLetter
  ((tablePicture? plainPictures name).or (tablePicture? tonedPictures name)).or (tonedPicture? name)

/-- What stands for the text between two colons, if it is the name of a picture. -/
def picture? (code : List Char) : Option (List Char) :=
  match before? "-emoji".toList code, before? "-text".toList code with
  | some name, _ => (namedPicture? name).map (· ++ [colourMark])
  | none, some name => (namedPicture? name).map (· ++ [textMark])
  | none, none => namedPicture? code

/-- The text between two colons, or the picture that it stands for. -/
def codeOrPicture (code : List Char) : List Char := (picture? code).getD (':' :: code ++ [':'])

/-- A text with pictures in the place of their names. After a colon that may start a name, what was read since then is
kept, last character first. -/
def withPictures : Option (List Char) → List Char → List Char
  | none, [] => []
  | none, c :: rest => if c == ':' then withPictures (some []) rest else c :: withPictures none rest
  | some code, [] => ':' :: code.reverse
  | some code, c :: rest =>
    if c == ':' then codeOrPicture code.reverse ++ withPictures none rest
    else if isSpace c then ':' :: code.reverse ++ c :: withPictures none rest
    else withPictures (some (c :: code)) rest

end CorpusShape.Console
