/-
Listings, a page at a time, and what stands in them.

A page says which one it is, how many items there are in all, and holds its own.  An empty listing
may come as `null` instead of a list, and a listing of which nothing is known as no page at all.
-/
import HealthBoard.Json.Wire

namespace HealthBoard

/-- One page of a listing. -/
structure Page (α : Type) where
  page : Int64
  pageSize : Int64
  total : Int64
  items : List α

/-- The page that stands for a listing that was not given. -/
def Page.none {α : Type} : Page α := ⟨1, 0, 0, []⟩

/-- A page as a wire type: everything may be left out. -/
def Page.shape (item : Json.Shape) : Json.Shape :=
  .record "Page" <|
    .field "page" false .integer <|
    .field "page_size" false .integer <|
    .field "total" false .integer <|
    .field "items" false (.listOrNull item) .done

instance {α : Type} [Wire α] : Wire (Page α) where
  shape := Page.shape (Wire.shape α)
  take := fun (page, size, total, items, ()) => ⟨page, size, total, items.map Wire.take⟩
  give p := (p.page, p.pageSize, p.total, p.items.map Wire.give, ())
  take_give p := by
    obtain ⟨page, size, total, items⟩ := p
    have h : (items.map Wire.give).map Wire.take = items := Wire.take_give (α := List α) items
    simp only [h]

/-- A user account together with one of its recorded fingerprints. -/
structure FingerprintUser where
  id : Int64
  username : String
  displayName : String
  email : String
  status : Int64
  role : Int64
  quota : Int64
  usedQuota : Int64
  requestCount : Int64
  visitorId : String
  recordTime : String
  ip : String

def FingerprintUser.shape : Json.Shape :=
  .record "FingerprintUser" <|
    .field "id" true .integer <|
    .field "username" true .text <|
    .field "display_name" false .text <|
    .field "email" false .text <|
    .field "status" false .integer <|
    .field "role" false .integer <|
    .field "quota" false .integer <|
    .field "used_quota" false .integer <|
    .field "request_count" false .integer <|
    .field "visitor_id" true .text <|
    .field "record_time" false .text <|
    .field "ip" false .text .done

instance : Wire FingerprintUser where
  shape := FingerprintUser.shape
  take := fun (id, username, displayName, email, status, role, quota, usedQuota, requestCount,
      visitorId, recordTime, ip, ()) =>
    ⟨id, username, displayName, email, status, role, quota, usedQuota, requestCount, visitorId,
      recordTime, ip⟩
  give u := (u.id, u.username, u.displayName, u.email, u.status, u.role, u.quota, u.usedQuota,
    u.requestCount, u.visitorId, u.recordTime, u.ip, ())
  take_give _ := rfl

/-- A visitor id that more than one user has. -/
structure DuplicateVisitor where
  visitorId : String
  ip : String
  userCount : Int64
  lastSeen : String

def DuplicateVisitor.shape : Json.Shape :=
  .record "DuplicateVisitor" <|
    .field "visitor_id" true .text <|
    .field "ip" false .text <|
    .field "user_count" true .integer <|
    .field "last_seen" false .text .done

instance : Wire DuplicateVisitor where
  shape := DuplicateVisitor.shape
  take := fun (visitorId, ip, userCount, lastSeen, ()) => ⟨visitorId, ip, userCount, lastSeen⟩
  give v := (v.visitorId, v.ip, v.userCount, v.lastSeen, ())
  take_give _ := rfl

/-- Which page is asked for. -/
structure PageParams where
  page? : Option Int64
  size? : Option Int64

def PageParams.shape : Json.Shape :=
  .record "PageParams" <|
    .field "p" true (.optional .integer) <|
    .field "page_size" true (.optional .integer) .done

instance : Wire PageParams where
  shape := PageParams.shape
  take := fun (page, size, ()) => ⟨page, size⟩
  give p := (p.page?, p.size?, ())
  take_give _ := rfl

namespace PageParams

/-- The number of the page: pages count from one, and the first is the default. -/
def page (p : PageParams) : Int64 :=
  let n := p.page?.getD 1
  if n.toInt < 1 then 1 else n

/-- The size of the page: one to a hundred items, and twenty by default. -/
def size (p : PageParams) : Int64 :=
  let n := p.size?.getD 20
  if n.toInt < 1 then 1 else if 100 < n.toInt then 100 else n

end PageParams
end HealthBoard
