/-
What is in an envelope, read at once.

The gateway's replies are read in two stages, since a reply of the wrong form is told from a refusal
by what stands beside the data.  Here the stages are put together: where the first reads an envelope
with data of any form, and the second takes records out of the data, a reader of envelopes with
records reads the same text at once, and reads the same records (`ask_hourlyHealth_direct`).

An envelope may come as an object or as a list of three values.  In either case the data stand
somewhere in the text, and the reader of any value and the reader of the form wanted both start
there; `Shape.read_of_convert` says that they end at the same place.
-/
import HealthBoard.Proofs.Gateway.Call
import HealthBoard.Proofs.Json.Direct

namespace HealthBoard

open Json Json.Reader

namespace RawEnvelope

/-- Everything in an envelope with data of any form can be passed over. -/
theorem allPass (depth : Nat) : RawEnvelope.shape.fields.AllPass depth :=
  ⟨passes_of_boolean, passes_of_text, passes_of_value, trivial⟩

theorem nodup_names : RawEnvelope.shape.fields.names.Nodup := by decide

end RawEnvelope

namespace Envelope

variable {s : Shape} {depth levels : Nat} {text left : List UInt8} {success : Bool}
  {message : String} {data : Json} {v : s.Value}

/-- An envelope that is given as an object. -/
theorem members_of_raw {slots : RawEnvelope.shape.fields.Slots} (hplain : s.IsPlain)
    (hheight : s.height ≤ levels) {members : List (String × List UInt8)}
    (hdistinct : ∀ m ∈ members, distinctNames levels m.2 = true)
    (hsupplied : RawEnvelope.shape.fields.Supplied depth members slots)
    (hcomplete : RawEnvelope.shape.fields.complete slots = .ok (success, message, data, ()))
    (hnull : data ≠ .null) (hconvert : s.convert data = .ok v) :
    ∃ slots', (Envelope.shape s).fields.Supplied depth members slots' ∧
      (Envelope.shape s).fields.complete slots' = .ok (success, message, v, ()) := by
  obtain ⟨success?, message?, data?, _⟩ := slots
  obtain ⟨hsuccess, hmessage, hdata, -⟩ := hsupplied
  cases success? with
  | none => cases hcomplete
  | some success' =>
      cases data? with
      | none =>
          cases message? <;>
            cases hcomplete <;>
            exact absurd rfl hnull
      | some data' =>
          have hsame : data' = data := by
            cases message? <;>
              cases hcomplete <;>
              rfl
          subst hsame
          refine ⟨(some success', message?, some v, ()), ⟨hsuccess, hmessage, ?_, trivial⟩, ?_⟩
          · cases hlookup : members.lookup "data" with
            | none =>
                rw [hlookup] at hdata
                cases hdata
            | some start =>
                rw [hlookup] at hdata
                obtain ⟨data', after, hslot, hvalue, hskip⟩ := hdata
                cases hslot
                obtain ⟨front, back, hmembers, -⟩ := List.lookup_eq_some_iff.mp hlookup
                have hstart := hdistinct ("data", start) (by rw [hmembers]; simp)
                have hread := s.read_of_convert hplain hheight hstart hvalue hconvert
                exact ⟨v, after, rfl, hread, hskip⟩
          · cases message? <;>
              cases hcomplete <;>
              rfl

/-- An envelope that is given as a list. -/
theorem items_of_raw {record record' : String} {rest : List UInt8} (hplain : s.IsPlain)
    (hheight : s.height ≤ levels)
    (hdistinct : ∀ {texts rest}, itemsFrom (fun _ => passed) (text.length + 1) 0 text
      = .ok texts rest → ∀ t ∈ texts, distinctNames levels t = true)
    (hraw : RawEnvelope.shape.fields.readItems record 3 0 depth text
      = .ok (.ok (success, message, data, ())) rest)
    (hend : endList rest = .ok () left) (hnull : data ≠ .null)
    (hconvert : s.convert data = .ok v) :
    (Envelope.shape s).fields.readItems record' 3 0 depth text
      = .ok (.ok (success, message, v, ())) rest := by
  rcases readItems_ok hraw with ⟨t₁, a₁, hnext₁, hsuccess, hraw⟩ | ⟨_, _, hrequired, _⟩
  case inr => cases hrequired
  rcases readItems_ok hraw with ⟨t₂, a₂, hnext₂, hmessage, hraw⟩ | ⟨a₂, hnone, -, -, hraw⟩
  case inr =>
    -- without a message there are no data either
    obtain ⟨-, more, -, rfl⟩ | ⟨h, -⟩ | ⟨h, -⟩ := hasItem_ok hnone
    · rcases readItems_ok hraw with ⟨_, _, hnext, _⟩ | ⟨_, _, -, hblank, -⟩
      · cases (hasItem_end _ rfl).symm.trans hnext
      · exact absurd hblank hnull
    · cases h
    · cases h
  rcases readItems_ok hraw with ⟨t₃, a₃, hnext₃, hdata, hraw⟩ | ⟨_, _, -, hblank, -⟩
  case inr => exact absurd hblank hnull
  cases hraw
  have hvalue : value depth t₃ = .ok data rest := hdata
  obtain ⟨n₁, hn₁, hpass₁⟩ := passes_of_boolean hsuccess
  obtain ⟨n₂, hn₂, hpass₂⟩ := passes_of_text hmessage
  obtain ⟨n₃, hn₃, hpass₃⟩ := passes_of_value hvalue
  have hlength₁ := length_of_hasItem hnext₁
  have hlength₂ := length_of_hasItem hnext₂
  have hlength₃ := length_of_hasItem hnext₃
  obtain ⟨fuel, hfuel⟩ : ∃ fuel, text.length + 1 = fuel + 4 := ⟨text.length - 3, by omega⟩
  have htexts : itemsFrom (fun _ => passed) (text.length + 1) 0 text
      = .ok [t₁, t₂, t₃] (0x5D :: left) := by
    rw [hfuel]
    refine itemsFrom_cons hnext₁ (passed_of_skipValue (passes_of_boolean hsuccess).skipValue) ?_
    refine itemsFrom_cons hnext₂ (passed_of_skipValue (passes_of_text hmessage).skipValue) ?_
    refine itemsFrom_cons hnext₃ (passed_of_skipValue (passes_of_value hvalue).skipValue) ?_
    exact itemsFrom_nil (hasItem_of_endList hend)
  have hdirect := s.read_of_convert hplain hheight (hdistinct htexts t₃ (by simp)) hvalue hconvert
  exact readItems_cons hnext₁ hsuccess (readItems_cons hnext₂ hmessage
    (readItems_cons hnext₃ hdirect rfl))

/-- **What is read in two stages is read at once.** -/
theorem read_of_raw (hplain : s.IsPlain) (hheight : s.height ≤ levels)
    (hdistinct : distinctNames (levels + 1) text = true)
    (hraw : RawEnvelope.shape.read (depth + 1) text = .ok (success, message, data, ()) left)
    (hnull : data ≠ .null) (hconvert : s.convert data = .ok v) :
    (Envelope.shape s).read (depth + 1) text = .ok (success, message, v, ()) left := by
  obtain ⟨hobject, hlist⟩ := distinctNames_succ_iff.mp hdistinct
  obtain ⟨hdepth, ⟨more, rest, hstart, hitems, hend⟩ |
    ⟨more, rest, slots, hstart, hfold, hcomplete, hend⟩⟩ := record_ok hraw
  · exact record_of_items hstart hdepth
      (items_of_raw hplain hheight (hlist hstart) hitems hend hnull hconvert) hend
  · obtain ⟨members, hmembers, hfilled⟩ :=
      Fields.filled_of_foldMembersFrom RawEnvelope.nodup_names (RawEnvelope.allPass depth) hfold
    obtain ⟨hnodup, hinside⟩ := hobject hstart hmembers
    obtain ⟨slots', hsupplied, hcomplete'⟩ := members_of_raw hplain hheight hinside
      hfilled.supplied hcomplete hnull hconvert
    have hnames : (Envelope.shape s).fields.names.Nodup := RawEnvelope.nodup_names
    have hdirect := hsupplied.foldMembers hnames hmembers hnodup
    exact record_of_members hstart hdepth hdirect hcomplete' hend

end Envelope

/-- Data that can be taken out of an envelope of any data, though not `null`, come with an envelope
of such data. -/
theorem decode_envelope {α : Type} [Wire α] {text : List UInt8} {raw : RawEnvelope} {a : α}
    (hplain : (Wire.shape α).IsPlain) (hdistinct : NoRepeats text)
    (hraw : (Wire.decode text : Except Complaint RawEnvelope) = .ok raw)
    (hnull : raw.data ≠ .null)
    (hconvert : (Wire.convert raw.data : Except Mismatch α) = .ok a) :
    (Wire.decode text : Except Complaint (Envelope α)) = .ok ⟨raw.success, raw.message, a⟩ := by
  obtain ⟨v, hv, rfl⟩ := exists_of_map_eq_ok hconvert
  obtain ⟨⟨success, message, data, _⟩, hdecode, rfl⟩ := exists_of_map_eq_ok hraw
  obtain ⟨left, hread, hleft⟩ := Shape.exists_read_of_decode hdecode
  have hlevels := noRepeats_iff.mp hdistinct ((Wire.shape α).height + 1)
  have hdirect := Envelope.read_of_raw hplain (Nat.le_refl _) hlevels hread hnull hv
  have hwhole : (Wire.shape (Envelope α)).decode text = .ok (success, message, v, ()) :=
    Shape.decode_of_read hdirect hleft
  rw [Wire.decode, hwhole]
  rfl

/--
**Records that are taken out of a reply are in it from the start.**  Where the call for records
gives any, a reader of envelopes with records reads the reply at once: it finds a success, and the
same records in the same order.
-/
theorem ask_hourlyHealth_direct {g : Gateway} {modelName : String} {window : HourWindow}
    {status : Nat} {body : List UInt8} {records : List HourlyRecord} (hdistinct : NoRepeats body)
    (hasked : g.ask (.hourlyHealth modelName window) (.reply status body) = .ok records) :
    ∃ message, (Wire.decode body : Except Complaint (Envelope (List HourlyRecord)))
      = .ok ⟨true, message, records⟩ := by
  obtain ⟨-, data, ⟨status', body', raw, hreply, -, -, hraw, hsuccess, rfl⟩, hread⟩ :=
    Gateway.ask_eq_ok_iff.mp hasked
  have hraw : (Wire.decode body : Except Complaint RawEnvelope) = .ok raw := by
    cases hreply
    split at hraw
    · exact hraw
    · -- Where a reply has no body there is no envelope.
      have hnone : (Wire.decode [] : Except Complaint RawEnvelope).toOption.isNone = true := by
        decide +kernel
      rw [hraw] at hnone
      cases hnone
  obtain ⟨items, hdata, hitems⟩ := Question.read_hourlyHealth_eq_ok_iff.mp hread
  have hconvert : (Wire.convert raw.data : Except Mismatch (List HourlyRecord)) = .ok records := by
    rw [hdata]
    exact convert_list_eq_ok_iff.mpr hitems
  have hnull : raw.data ≠ .null := by
    rw [hdata]
    intro h
    cases h
  refine ⟨raw.message, ?_⟩
  rw [decode_envelope HourlyRecord.isPlain hdistinct hraw hnull hconvert, hsuccess]

/-- A reply whose records come as an object and as a list, beside members that nobody asked for. -/
def mixedReply : List UInt8 := bytesOf
  ("\x7b\"note\":\x7b\"a\":[1,\x7b\"b\":2\x7d]\x7d,\"success\":true,\"data\":[" ++
    "\x7b\"hour_start_ts\":3600,\"model_name\":\"m\",\"extra\":[]\x7d,[\"n\",7200,1,2]]\x7d")

/-- Two hours. -/
def twoHours : HourWindow := ⟨3600, 10800, by decide, by decide, by decide, by decide⟩

theorem ask_hourlyHealth_direct_mixed :
    NoRepeats mixedReply ∧ ∃ records message,
      openGateway.ask (.hourlyHealth "m" twoHours) (.reply 200 mixedReply) = .ok records ∧
      records.map (fun r => (r.modelName, r.hourStart)) = [("m", 3600), ("n", 7200)] ∧
      (Wire.decode mixedReply : Except Complaint (Envelope (List HourlyRecord)))
        = .ok ⟨true, message, records⟩ := by
  have hdistinct : NoRepeats mixedReply := by decide +kernel
  have hread : (openGateway.ask (.hourlyHealth "m" twoHours) (.reply 200 mixedReply)).toOption.map
      (fun records => records.map fun r => (r.modelName, r.hourStart))
        = some [("m", 3600), ("n", 7200)] := by
    decide +kernel
  obtain ⟨records, hrecords, hnames⟩ := Option.map_eq_some_iff.mp hread
  have hasked := eq_ok_of_toOption hrecords
  obtain ⟨message, hdirect⟩ := ask_hourlyHealth_direct hdistinct hasked
  exact ⟨hdistinct, records, message, hasked, hnames, hdirect⟩

end HealthBoard
