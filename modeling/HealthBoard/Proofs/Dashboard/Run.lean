/-
Runs of the dashboard, and where in a run one stands.

A run is seen from outside as a list of replies.  What the dashboard keeps between requests is not
among them, but it is what the requests before led to: `run_getElem?` says that the reply at any
point of a run is the answer from the board that those left.  So a property of runs is proved of
the board after a run first, by one request at a time, and then holds at every point.
-/
import HealthBoard.Dashboard.Board

namespace HealthBoard.Dashboard

variable {σ : Type} [KeyValueStore σ]

/-- The board after some requests. -/
def after (d : Dashboard) : Board σ → List (World × Request) → Board σ
  | board, [] => board
  | board, (w, request) :: rest => d.after (d.respond w request board).2 rest

variable {d : Dashboard} {w : World} {request : Request}

@[simp] theorem after_nil (board : Board σ) : d.after board [] = board := rfl

@[simp] theorem after_cons (board : Board σ) (rest : List (World × Request)) :
    d.after board ((w, request) :: rest) = d.after (d.respond w request board).2 rest := rfl

theorem after_append {later : List (World × Request)} :
    ∀ {earlier : List (World × Request)} {board : Board σ},
      d.after board (earlier ++ later) = d.after (d.after board earlier) later := by
  intro earlier
  induction earlier with
  | nil => intro board; rfl
  | cons step rest ih => intro board; exact ih

/-- **The reply at a point of a run is given from the board that the requests before it left.** -/
theorem run_getElem? {future : List (World × Request)} :
    ∀ {past : List (World × Request)} {board : Board σ},
      (d.run board (past ++ (w, request) :: future))[past.length]?
        = some (d.respond w request (d.after board past)).1 := by
  intro past
  induction past with
  | nil => intro board; rfl
  | cons step rest ih => intro board; exact ih

end HealthBoard.Dashboard
