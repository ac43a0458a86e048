/-
How alike two words are.

Two equal characters match if their places are not too far apart, and each matches at most once.
The likeness is the mean of three shares: of the characters of one word that match, of those of
the other, and of the matches that come in the same order in both.  It is what suggestions for
mistyped words go by.
-/
namespace HealthBoard.Text

/-- How far apart two places may be. -/
def reach (a b : List Char) : Nat := max a.length b.length / 2 - 1

/-- Takes the first character `c` of a word out that stands between two places, and says where. -/
def findFree (c : Char) (least bound : Nat) : List (Option Char) → Nat → Option Nat
  | [], _ => none
  | free :: rest, i =>
    if i < bound && least ≤ i && free == some c then some i
    else findFree c least bound rest (i + 1)

/--
The places in `b` that the characters of `a` match, in the order of `a`.  What has matched is no
longer free.
-/
def matchPlaces (apart : Nat) : List Char → Nat → List (Option Char) → List (Char × Nat)
  | [], _, _ => []
  | c :: rest, i, free =>
    match findFree c (i - apart) (i + apart + 1) free 0 with
    | some j => (c, j) :: matchPlaces apart rest (i + 1) (free.set j none)
    | none => matchPlaces apart rest (i + 1) free

/-- How alike two words are, from 0 to 1. -/
def likeness (s t : String) : Float :=
  let a := s.toList
  let b := t.toList
  if a.isEmpty && b.isEmpty then 1 else
    let found := matchPlaces (reach a b) a 0 (b.map some)
    let inOtherOrder := (found.map (·.2)).mergeSort.filterMap (b[·]?)
    let moved := ((found.map (·.1)).zip inOtherOrder).countP fun (c, d) => c != d
    let share (n m : Nat) : Float := n.toFloat / m.toFloat
    let n := found.length
    if n == 0 then 0
    else (share n a.length + share n b.length + share (n - moved / 2) n) / 3

/-- The words that are much like a given one, the most alike last. -/
def similar (word : String) (words : List String) : List String :=
  let scored := words.map fun w => (likeness word w, w)
  ((scored.filter fun x => 0.7 < x.1).mergeSort fun x y => x.1 ≤ y.1).map (·.2)

end HealthBoard.Text
