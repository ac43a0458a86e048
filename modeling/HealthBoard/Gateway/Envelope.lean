/-
The envelope around everything that is sent: whether it worked, a message, and the data.

The gateway's answers come in it and so do the dashboard's own.  Where it is not known yet what
the data should be, they are any JSON, and may be missing.
-/
import HealthBoard.Gateway.Page
import HealthBoard.Health.Record

namespace HealthBoard

/-- Data, and whether and why they could not be had. -/
structure Envelope (α : Type) where
  success : Bool
  message : String
  data : α

def Envelope.shape (data : Json.Shape) : Json.Shape :=
  .record "Envelope" <|
    .field "success" true .boolean <|
    .field "message" false .text <|
    .field "data" true data .done

instance {α : Type} [Wire α] : Wire (Envelope α) where
  shape := Envelope.shape (Wire.shape α)
  take := fun (success, message, data, ()) => ⟨success, message, Wire.take data⟩
  give e := (e.success, e.message, Wire.give e.data, ())
  take_give e := by simp [Wire.take_give]

/-- The envelope of data that were had. -/
def Envelope.ok {α : Type} (data : α) : Envelope α := ⟨true, "", data⟩

/-- The envelope of a failure, with what to show instead. -/
def Envelope.failed {α : Type} (message : String) (data : α) : Envelope α := ⟨false, message, data⟩

/-- An envelope as it is received: the data are looked at later. -/
structure RawEnvelope where
  success : Bool
  message : String
  data : Json

def RawEnvelope.shape : Json.Shape :=
  .record "RawEnvelope" <|
    .field "success" true .boolean <|
    .field "message" false .text <|
    .field "data" false .any .done

instance : Wire RawEnvelope where
  shape := RawEnvelope.shape
  take := fun (success, message, data, ()) => ⟨success, message, data⟩
  give e := (e.success, e.message, e.data, ())
  take_give _ := rfl

/-- What the public page is made from: a window and its records. -/
structure PublicHourlyPayload where
  startHour : Int64
  endHour : Int64
  rows : List HourlyRecord

def PublicHourlyPayload.shape : Json.Shape :=
  .record "PublicHourlyPayload" <|
    .field "start_hour" true .integer <|
    .field "end_hour" true .integer <|
    .field "rows" false (.list HourlyRecord.shape) .done

instance : Wire PublicHourlyPayload where
  shape := PublicHourlyPayload.shape
  take := fun (startHour, endHour, rows, ()) => ⟨startHour, endHour, rows.map Wire.take⟩
  give p := (p.startHour, p.endHour, p.rows.map Wire.give, ())
  take_give p := by
    obtain ⟨startHour, endHour, rows⟩ := p
    have h : (rows.map Wire.give).map Wire.take = rows :=
      Wire.take_give (α := List HourlyRecord) rows
    simp only [h]

/-- What is sent to record a fingerprint. -/
structure RecordRequest where
  visitorId : String

def RecordRequest.shape : Json.Shape :=
  .record "RecordFingerprintRequest" <|
    .field "visitor_id" true .text .done

instance : Wire RecordRequest where
  shape := RecordRequest.shape
  take := fun (visitorId, ()) => ⟨visitorId⟩
  give r := (r.visitorId, ())
  take_give _ := rfl

end HealthBoard
