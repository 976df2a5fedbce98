/-
# `GridQueue.Text.Column` — texts of a width

Texts are filled up with blanks to a number of characters; a longer text
stays as it is.
-/

namespace GridQueue.Text

def filler (width : Nat) (s : String) : String :=
  String.ofList (List.replicate (width - s.length) ' ')

def alignLeft (width : Nat) (s : String) : String := s ++ filler width s

def alignRight (width : Nat) (s : String) : String := filler width s ++ s

end GridQueue.Text
