/-
What a listing shows of the gateway's data.

A page goes through three hands: it is taken out of the data, its items are turned into rows, and
both are written again.  `listed` says what comes out, in terms of the data alone, and no part of it
mentions a page or a user: the three numbers are those given, and there is a row for every item, in
the order of the items, with every field as it was given.
-/
import HealthBoard.Proofs.Dashboard.Inquiry
import HealthBoard.Proofs.Gateway.Call
import HealthBoard.Proofs.Json.Copied

namespace HealthBoard.Dashboard

/-! ### Rows -/

/-- The fields of a user, with what stands for each if it is not given. -/
def userFields : List (String × Json) :=
  [("id", .int 0), ("username", .str ""), ("display_name", .str ""), ("email", .str ""),
    ("status", .int 0), ("role", .int 0), ("quota", .int 0), ("used_quota", .int 0),
    ("request_count", .int 0), ("visitor_id", .str ""), ("record_time", .str ""), ("ip", .str "")]

/-- The fields of a visitor id that several users have. -/
def visitorFields : List (String × Json) :=
  [("visitor_id", .str ""), ("ip", .str ""), ("user_count", .int 0), ("last_seen", .str "")]

/-- What a role is called, as it was given. -/
def roleName : Option Json → String
  | some (.int 100) => "root"
  | some (.int 10) => "admin"
  | _ => "user"

/-- What a status is called, as it was given. -/
def statusName : Option Json → String
  | some (.int 1) => "enabled"
  | _ => "disabled"

/-- The row of a user: the fields as they were given, and the names of role and status. -/
def userRow (given : Json) : Json :=
  .obj (given.copied userFields ++
    [("role_label", .str (roleName (given.part? 5 "role"))),
      ("status_label", .str (statusName (given.part? 4 "status")))])

/-- The row of a visitor id: the fields as they were given. -/
def visitorRow (given : Json) : Json := .obj (given.copied visitorFields)

/-- A value of the wire comes from a value of its shape. -/
theorem exists_of_convert {α : Type} [Wire α] {given : Json} {a : α}
    (h : (Wire.convert given : Except Json.Mismatch α) = .ok a) :
    ∃ v, (Wire.shape α).convert given = .ok v ∧ Wire.take v = a := by
  unfold Wire.convert at h
  cases hv : (Wire.shape α).convert given with
  | error m =>
    rw [hv] at h
    cases h
  | ok v =>
    rw [hv] at h
    exact ⟨v, rfl, Except.ok.inj h⟩

theorem toJson_of_convert {given : Json} {v : DuplicateVisitor}
    (h : (Wire.convert given : Except Json.Mismatch DuplicateVisitor) = .ok v) :
    Wire.toJson v = visitorRow given := by
  obtain ⟨v, hv, rfl⟩ := exists_of_convert h
  refine congrArg Json.obj (Json.Shape.toMembers_of_convert ?_ ?_ hv)
  · decide
  · exact ⟨trivial, trivial, trivial, trivial, trivial⟩

/-! ### Pages -/

/-- The items that data give; `null` and nothing at all stand for no items. -/
def givenItems (data : Json) : List Json :=
  match data.member? "items" with
  | some (.arr items) => items
  | _ => []

/-- What is listed of data, if `row` is what is listed of an item. -/
def listed (row : Json → Json) (data : Json) : Json :=
  match data with
  | .null => emptyPage
  | _ => .obj (data.copied [("page", .int 0), ("page_size", .int 0), ("total", .int 0)] ++
      [("items", .arr ((givenItems data).map row))])

section

variable {α : Type} [Wire α] {item : α → Json} {row : Json → Json}

end

end HealthBoard.Dashboard
