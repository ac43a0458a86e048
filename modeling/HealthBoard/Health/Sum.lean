/-
Counts that are added up in 64 bits.

A program can be built in two ways.  In one it goes on when a sum does not fit in 64 bits, with what
is left of the sum modulo 2 ^ 64; in the other it stops there.  Whatever adds up counts is written
twice below: as a function, which is the program that goes on, and with `Overflow` and a question
mark, which is either program, with nothing for an answer where it stopped.
-/

namespace HealthBoard

/-- Some counts added up, modulo 2 ^ 64. -/
def total (counts : List Int64) : Int64 := counts.foldl (· + ·) 0

/-- What a program does when a sum does not fit in 64 bits. -/
inductive Overflow where
  /-- It goes on with the sum modulo 2 ^ 64. -/
  | wraps
  | stops
  deriving DecidableEq

namespace Overflow

/-- The sum of two counts, unless the program stops at it. -/
def add? : Overflow → Int64 → Int64 → Option Int64
  | .wraps, a, b => some (a + b)
  | .stops, a, b => if (a + b).toInt = a.toInt + b.toInt then some (a + b) else none

/-- Some counts added up, one after the other, unless the program stops on the way. -/
def total? (o : Overflow) (counts : List Int64) : Option Int64 := counts.foldlM o.add? 0

end Overflow
end HealthBoard
