import CameraControl.Text.Hidden

/-!
A text between double quotes, with everything that would not show in it spelled out.
-/
namespace CameraControl.Text

/-- A character by its number. -/
def byNumber (c : Char) : List Char :=
  ['\\', 'u', Char.ofNat 0x7B] ++ Nat.toDigits 16 c.toNat ++ [Char.ofNat 0x7D]

def spell (c : Char) : List Char :=
  if c = '"' || c = '\\' then ['\\', c]
  else if c = '\n' then ['\\', 'n']
  else if c = '\r' then ['\\', 'r']
  else if c = '\t' then ['\\', 't']
  else if c.toNat = 0 then ['\\', '0']
  else if isHidden c then byNumber c
  else [c]

def quoted (s : String) : String := "\"" ++ String.ofList (s.toList.flatMap spell) ++ "\""

end CameraControl.Text
