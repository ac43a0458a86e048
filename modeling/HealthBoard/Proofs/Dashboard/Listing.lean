/-
What comes of a request for a listing.

Three places list what was recorded: fingerprints, visitor ids that several users have, and the
users of one visitor id.  They differ in their parameters, in where the gateway is asked and in
their rows, and share all the rest.  A request is refused if its query cannot be read or does not
say whose users are wanted.  Any other is passed on, once, with its numbers put into bounds and its
texts trimmed; and an answer with data lists what the gateway gave.  As with a trend, once means one
request unless the gateway sends it on, and none if no request can be made.
-/
import HealthBoard.Proofs.Dashboard.Refusal
import HealthBoard.Proofs.Dashboard.Rows
import HealthBoard.Proofs.Gateway.Passing

namespace HealthBoard.Dashboard

/-! ### What is asked -/

namespace Query

/-- The text given for a name, without white space around it; nothing given is no text. -/
def trimmed (q : Query) (name : String) : String := Text.trim ((q.text? name).getD "")

/-- Which page is asked for: the first if none is given, and none before it. -/
def pageNumber (q : Query) : Int := max 1 ((q.integer? "p").getD 1).toInt

/-- How long the page is to be: twenty if nothing is given, and one to a hundred. -/
def pageSize (q : Query) : Int := max 1 (min 100 ((q.integer? "page_size").getD 20).toInt)

/-- The parameters that say which page is wanted. -/
def pagePairs (q : Query) : List (String × String) :=
  [("p", Decimal.text q.pageNumber), ("page_size", Decimal.text q.pageSize)]

end Query

/-- A place that lists what was recorded. -/
inductive Listing where
  | fingerprints
  | duplicates
  | users

namespace Listing

def route : Listing → Route
  | .fingerprints => .fingerprints
  | .duplicates => .duplicates
  | .users => .users

def parameters : Listing → List (String × ParameterKind)
  | .fingerprints => [("keyword", .text), ("p", .integer), ("page_size", .integer)]
  | .duplicates => [("p", .integer), ("page_size", .integer)]
  | .users => [("visitor_id", .text), ("ip", .text), ("p", .integer), ("page_size", .integer)]

/-- Something is wrong with a request for a listing. -/
inductive Refused (raw : Option (List UInt8)) : Listing → Prop
  | unread {l : Listing} {fault : QueryFault} (hread : Query.read l.parameters raw = .error fault) :
      Refused raw l
  /-- The visitor id is missing or blank. -/
  | unnamed {q : Query} (hread : Query.read users.parameters raw = .ok q)
      (hblank : q.trimmed "visitor_id" = "") : Refused raw .users

/-- Where the gateway is asked; a keyword has to be searched for. -/
def place : Listing → Query → String
  | .fingerprints, q =>
    if q.trimmed "keyword" = "" then "/api/fingerprint/" else "/api/fingerprint/search"
  | .duplicates, _ => "/api/fingerprint/duplicates"
  | .users, _ => "/api/fingerprint/users"

/-- What the gateway is asked. -/
def pairs : Listing → Query → List (String × String)
  | .fingerprints, q => q.pagePairs ++ [("keyword", q.trimmed "keyword")]
  | .duplicates, q => q.pagePairs
  | .users, q => ("visitor_id", q.trimmed "visitor_id") :: q.pagePairs ++
      if q.trimmed "ip" = "" then [] else [("ip", q.trimmed "ip")]

/-- What is listed of an item. -/
def row : Listing → Json → Json
  | .fingerprints | .users => userRow
  | .duplicates => visitorRow

/-- A page can be taken out of the data. -/
def Takes : Listing → Json → Prop
  | .fingerprints, data | .users, data => ∃ page : Page FingerprintUser, Call.HoldsPage data page
  | .duplicates, data => ∃ page : Page DuplicateVisitor, Call.HoldsPage data page

/-- The inquiry that a query makes. -/
def inquiry : Listing → Query → Inquiry
  | .fingerprints, q => .fingerprints ((q.text? "keyword").getD "") (pageOf q)
  | .duplicates, q => .duplicates (pageOf q)
  | .users, q => .users (q.trimmed "visitor_id") ((q.text? "ip").map Text.trim) (pageOf q)

variable {l : Listing} {now : Int64} {raw : Option (List UInt8)} {q : Query}

/-! ### Queries and inquiries -/

theorem toInt_page : (pageOf q).page.toInt = q.pageNumber := by
  have hone : (1 : Int64).toInt = 1 := rfl
  unfold Query.pageNumber pageOf PageParams.page
  simp only
  split <;> omega

theorem toInt_size : (pageOf q).size.toInt = q.pageSize := by
  have hone : (1 : Int64).toInt = 1 := rfl
  have hhundred : (100 : Int64).toInt = 100 := rfl
  unfold Query.pageSize pageOf PageParams.size
  simp only
  split
  · omega
  · split <;> omega

theorem question_method : (l.inquiry q).question.method = .get := by
  cases l <;> rfl

theorem question_path : (l.inquiry q).question.path = l.place q := by
  cases l with
  | fingerprints =>
    have hkeyword : Text.trim ((q.text? "keyword").getD "") = q.trimmed "keyword" := rfl
    simp only [inquiry, Inquiry.question, Question.fingerprints, Question.get, place, hkeyword,
      beq_iff_eq]
  | _ => rfl

theorem pageParameters_eq :
    Question.pageParameters (pageOf q).page (pageOf q).size = q.pagePairs := by
  unfold Question.pageParameters Question.number Query.pagePairs
  rw [toInt_page, toInt_size]

theorem question_parameters : (l.inquiry q).question.parameters = l.pairs q := by
  cases l with
  | fingerprints => exact congrArg (· ++ _) pageParameters_eq
  | duplicates => exact pageParameters_eq
  | users =>
    show ("visitor_id", q.trimmed "visitor_id") ::
      Question.pageParameters (pageOf q).page (pageOf q).size ++ _ = _
    rw [pageParameters_eq, pairs]
    cases hip : q.text? "ip" with
    | none =>
      have hnone : q.trimmed "ip" = "" := by
        rw [Query.trimmed, hip]
        rfl
      rw [if_pos hnone]
      rfl
    | some ip => simp [Query.trimmed, hip]

/-! ### Answers -/

/-- The answer lists what the gateway gave, or tells that it gave nothing to list. -/
structure Shows (l : Listing) (d : Dashboard) (w : World) (q : Query) (response : Response) :
    Prop where
  status : response.status = 200 ∨ response.status = 502
  unsent : ¬ d.gateway.CanSend (l.place q) → response.status = 502
  lists : response.status = 200 → ∃ data, w.exchange.Delivers data ∧ l.Takes data ∧
    response = (Display.view (listed l.row data)).response l.route
  /-- Data that a page can be taken out of are listed. -/
  answers : d.gateway.CanSend (l.place q) → ∀ data, w.exchange.Delivers data → l.Takes data →
    response.status = 200

variable {d : Dashboard} {w : World}

theorem questionMark_notMem_place : '?' ∉ (l.place q).toList := by
  cases l with
  | fingerprints =>
    rw [place]
    split <;> decide
  | duplicates => exact (by decide : '?' ∉ "/api/fingerprint/duplicates".toList)
  | users => exact (by decide : '?' ∉ "/api/fingerprint/users".toList)

/-- The gateway is asked for what the query says, and for nothing else. -/
theorem passesOn_received : d.gateway.PassesOn (l.place q) (l.pairs q) w.exchange
    (d.gateway.received (l.inquiry q).question w.exchange) := by
  rw [← question_path, ← question_parameters]
  refine Gateway.passesOn_received ?_ question_method ?_
  · rw [question_path]
    exact questionMark_notMem_place
  · cases l <;> rfl

end Listing

end HealthBoard.Dashboard
