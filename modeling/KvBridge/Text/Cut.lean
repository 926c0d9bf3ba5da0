/-!
# Cutting texts

A text is cut at marks, and the marks are left out.

* `splitAll`: the parts between all marks of a kind, of which there is always one;
* `cut?`, `cutLast?`: the two parts around the first or the last mark.
-/

namespace KvBridge.Text

/-- Cuts at each character of a kind. -/
def splitAll (sep : Char) (cs : List Char) : List (List Char) :=
  cs.foldr (fun c parts =>
    if c = sep then [] :: parts
    else
      match parts with
      | [] => [[c]]
      | p :: ps => (c :: p) :: ps) [[]]

/-- Cuts at the first character of a kind, if there is one. -/
def cut? (p : Char → Bool) (cs : List Char) : Option (List Char × List Char) :=
  match cs.dropWhile fun c => !p c with
  | [] => none
  | _ :: rest => some (cs.takeWhile fun c => !p c, rest)

/-- Cuts at the last character of a kind, if there is one. -/
def cutLast? (p : Char → Bool) (cs : List Char) : Option (List Char × List Char) :=
  (cut? p cs.reverse).map fun (after, before) => (before.reverse, after.reverse)

end KvBridge.Text
