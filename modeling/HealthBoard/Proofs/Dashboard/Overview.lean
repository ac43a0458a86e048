/-
An overview agrees with itself.

The figures of an overview are worked out from the models, its cards are made from the models that
the search finds, and the level of a cell is judged cell by cell.  All three start from one rollup
of the records, and so they have to agree: the figures count the cards there are if nothing is
searched for, and a cell that stands for an hour without a record has the level of its card.  The
search decides which cards are shown and nothing else.

The body that is sent is spelled out here once more (`Overview.Sent`), member by member, so that
what is shown of an overview does not hang on how it is written down.  Sums are those of 64 bits,
and exact if the exact ones fit; a program that stops at a sum has this overview or none.
-/
import HealthBoard.Proofs.Dashboard.Display
import HealthBoard.Proofs.Health.Cells
import HealthBoard.Proofs.Health.Overflow

namespace HealthBoard

namespace Overview

/-! ### What is sent -/

/-- A cell as it is sent. -/
def cellSent (c : CellView) : Json :=
  .obj [("model_name", .str c.cell.modelName), ("hour_start_ts", .int c.cell.hourStart.toInt),
    ("success_slices", .int c.cell.successSlices.toInt),
    ("total_slices", .int c.cell.totalSlices.toInt),
    ("success_requests", .int c.cell.successRequests.toInt),
    ("error_requests", .int c.cell.errorRequests.toInt),
    ("total_requests", .int c.cell.totalRequests.toInt),
    ("success_rate", .float c.cell.successRate),
    ("is_filled", .bool c.cell.isFilled), ("level", .str c.level.name)]

/-- A card as it is sent. -/
def cardSent (card : ModelCard) : Json :=
  .obj [("model_name", .str card.model.modelName), ("avg_rate", .float card.model.averageRate),
    ("total_success", .int card.model.totalSuccess.toInt),
    ("total_slices", .int card.model.totalSlices.toInt), ("level", .str card.level.name),
    ("label", .str card.label), ("hourly", .arr (card.hourly.map cellSent))]

/-- The answer is a success, and these are the members of its data. -/
structure Sent (v : Overview) (response : Response) : Prop where
  status : response.status = 200
  body : response.body = .json (.obj [("success", .bool true), ("message", .str ""),
    ("data", .obj [("start_hour", .int v.startHour.toInt), ("end_hour", .int v.endHour.toInt),
      ("latest_hour", .int (v.endHour.toInt - 3600)),
      ("hours", .arr (v.hours.map fun hour => .int hour.toInt)),
      ("stats", .obj [("total_models", .int v.stats.totalModels),
        ("healthy_models", .int v.stats.healthyModels),
        ("warning_models", .int v.stats.warningModels),
        ("critical_models", .int v.stats.criticalModels),
        ("overall_rate", .float v.stats.overallRate),
        ("total_success_slices", .int v.stats.totalSuccessSlices.toInt),
        ("total_slices", .int v.stats.totalSlices.toInt)]),
      ("models", .arr (v.models.map cardSent))])])

/-! ### What is said -/

/-- The overview is one of these records: its bounds and hours are those of the window, its cards
those of the models that are found, in the order of the rollup, and every level is the one that the
cut-offs give to the rate beside it. -/
structure Summarizes (thresholds : ThresholdSet) (window : HourWindow)
    (records : List HourlyRecord) (search : String) (v : Overview) : Prop where
  startHour : v.startHour = window.start
  endHour : v.endHour = window.stop
  hours : v.hours = window.hours
  models : v.models.map (·.model)
    = (rollup records window.hours).filter fun m => findsName search m.modelName
  level : ∀ card ∈ v.models, card.level = thresholds.classify card.model.averageRate
  label : ∀ card ∈ v.models, card.label = thresholds.label card.level
  cells : ∀ card ∈ v.models, card.hourly.map (·.cell) = card.model.hourly
  cellLevel : ∀ card ∈ v.models, ∀ c ∈ card.hourly,
    c.level = thresholds.classify c.cell.successRate

/-- What does not depend on the search is the same in both. -/
structure SharesFrame (v v' : Overview) : Prop where
  startHour : v.startHour = v'.startHour
  endHour : v.endHour = v'.endHour
  latestHour : v.latestHour = v'.latestHour
  hours : v.hours = v'.hours
  stats : v.stats = v'.stats

/-- The latest hour is the last one, and cells without a record look like their card. -/
structure Coherent (v : Overview) : Prop where
  latest : ∃ hour, v.latestHour = some hour ∧ v.hours.getLast? = some hour ∧
    hour.toInt = v.endHour.toInt - 3600
  filled : ∀ card ∈ v.models, ∀ c ∈ card.hourly, c.cell.isFilled = true → c.level = card.level

/-- A figure is the sum of some counts, or what is left of it in 64 bits. -/
structure AddsUp (figure : Int64) (counts : List Int) : Prop where
  wrapped : figure = Int64.ofInt counts.sum
  exact : Fits counts.sum → figure.toInt = counts.sum

/-- The figures are the counts and the sums of the cards. -/
structure Tallies (v : Overview) : Prop where
  total : v.stats.totalModels = v.models.length
  healthy : v.stats.healthyModels
    = v.models.countP fun card => card.level = .excellent ∨ card.level = .good
  warning : v.stats.warningModels = v.models.countP fun card => card.level = .warning
  critical : v.stats.criticalModels
    = v.models.countP fun card => card.level = .poor ∨ card.level = .critical
  success : AddsUp v.stats.totalSuccessSlices
    (v.models.map fun card => card.model.totalSuccess.toInt)
  slices : AddsUp v.stats.totalSlices (v.models.map fun card => card.model.totalSlices.toInt)

variable {thresholds : ThresholdSet} {window : HourWindow} {records : List HourlyRecord}
  {search : String} {v : Overview}

/-- What the cards show of their models is what the models that are found have, whatever their
order is. -/
theorem Summarizes.perm {β : Type} (h : Summarizes thresholds window records search v)
    (shown : ModelRollup → β) :
    (v.models.map fun card => shown card.model).Perm
      ((((Rollup.modelNames records).map (Rollup.ofModel records window.hours)).filter
        fun m => findsName search m.modelName).map shown) := by
  have hmodels : (v.models.map fun card => shown card.model)
      = (v.models.map (·.model)).map shown := by
    rw [List.map_map]
    rfl
  rw [hmodels, h.models]
  exact ((List.mergeSort_perm _ _).filter _).map shown

theorem sharesFrame_ofRecords (search search' : String) :
    (ofRecords thresholds window records search).SharesFrame
      (ofRecords thresholds window records search') :=
  ⟨rfl, rfl, rfl, rfl, rfl⟩

theorem summarizes_ofRecords (search : String) :
    Summarizes thresholds window records search (ofRecords thresholds window records search) where
  startHour := rfl
  endHour := rfl
  hours := rfl
  models := by
    show ((filterByName _ search).map _).map _ = _
    rw [List.map_map]
    exact List.map_id _
  level := by
    intro card hcard
    obtain ⟨m, -, rfl⟩ := List.mem_map.mp hcard
    rfl
  label := by
    intro card hcard
    obtain ⟨m, -, rfl⟩ := List.mem_map.mp hcard
    rfl
  cells := by
    intro card hcard
    obtain ⟨m, -, rfl⟩ := List.mem_map.mp hcard
    show (m.hourly.map _).map _ = m.hourly
    rw [List.map_map]
    exact List.map_id _
  cellLevel := by
    intro card hcard c hc
    obtain ⟨m, -, rfl⟩ := List.mem_map.mp hcard
    obtain ⟨cell, -, rfl⟩ := List.mem_map.mp hc
    rfl

theorem coherent_ofRecords (search : String) :
    (ofRecords thresholds window records search).Coherent where
  latest := by
    obtain ⟨hour, hlast, htime⟩ := window.getLast?_hours
    exact ⟨hour, hlast, hlast, htime⟩
  filled := by
    intro card hcard c hc hfilled
    obtain ⟨m, hm, rfl⟩ := List.mem_map.mp hcard
    obtain ⟨cell, hcell, rfl⟩ := List.mem_map.mp hc
    have hrate : cell.successRate = m.averageRate :=
      ((Rollup.shows_of_mem_hourly (List.mem_filter.mp hm).1 hcell).filled hfilled).successRate
    show thresholds.classify cell.successRate = thresholds.classify m.averageRate
    rw [hrate]

/-! ### How it is written down -/

theorem Coherent.sent {v : Overview} (h : v.Coherent) :
    v.Sent ((Dashboard.Display.view v.toJson).response .overview) where
  status := rfl
  body := by
    obtain ⟨hour, hlatest, -, htime⟩ := h.latest
    simp only [Dashboard.Display.response, toJson, hlatest, htime]
    rfl

/-! ### What a search does -/

theorem filterByName_of_blank {search : String} (h : Text.trim search = "")
    (models : List ModelRollup) : filterByName models search = models := by
  unfold filterByName
  rw [List.filter_eq_self]
  intro m _
  simp [findsName, h]

/-- The cards that are found stand among all cards, in their order. -/
theorem sublist_ofRecords {search' : String} (h : Text.trim search' = "") (search : String) :
    (ofRecords thresholds window records search).models.Sublist
      (ofRecords thresholds window records search').models := by
  show ((filterByName _ search).map _).Sublist ((filterByName _ search').map _)
  rw [filterByName_of_blank h]
  exact List.filter_sublist.map _

/-- The levels that the figures count are the levels of the cards. -/
private theorem countP_levels (p : HealthLevel → Bool) (models : List ModelRollup) :
    (models.map fun m => thresholds.classify m.averageRate).countP p
      = (models.map (ModelCard.ofRollup thresholds)).countP fun card => p card.level := by
  rw [List.countP_map, List.countP_map]
  rfl

theorem addsUp_total {α : Type} (count : α → Int64) (l : List α) :
    AddsUp (total (l.map count)) (l.map fun a => (count a).toInt) := by
  have hexact : exactTotal (l.map count) = (l.map fun a => (count a).toInt).sum := by
    rw [exactTotal, List.map_map]
    rfl
  exact ⟨hexact ▸ total_eq_ofInt _, hexact ▸ toInt_total⟩

theorem tallies_ofRecords {search : String} (h : Text.trim search = "") :
    (ofRecords thresholds window records search).Tallies := by
  have hmodels : (ofRecords thresholds window records search).models
      = (rollup records window.hours).map (ModelCard.ofRollup thresholds) := by
    show (filterByName _ search).map _ = _
    rw [filterByName_of_blank h]
  constructor
  · rw [hmodels, List.length_map]
    rfl
  · rw [hmodels]
    refine (countP_levels _ _).trans (List.countP_congr fun card _ => ?_)
    cases card.level <;> simp [HealthLevel.isHealthy]
  · rw [hmodels]
    refine (countP_levels _ _).trans (List.countP_congr fun card _ => ?_)
    simp
  · rw [hmodels]
    refine (countP_levels _ _).trans (List.countP_congr fun card _ => ?_)
    cases card.level <;> simp [HealthLevel.isHealthy]
  · rw [hmodels, List.map_map]
    exact addsUp_total _ _
  · rw [hmodels, List.map_map]
    exact addsUp_total _ _

/-! ### Programs that may stop -/

/-- **The overview is the same in both programs**, if there is one. -/
theorem overview?_eq_some_iff {o : Overflow} {search : String} {v : Overview} :
    o.overview? thresholds window records search = some v ↔
      v = ofRecords thresholds window records search ∧
        (∀ name ∈ Rollup.modelNames records, o.BearsModel records window.hours name) ∧
        o.Bears ((rollup records window.hours).map (·.totalSuccess)) ∧
        o.Bears ((rollup records window.hours).map (·.totalSlices)) := by
  unfold Overflow.overview?
  simp only [Option.bind_eq_bind, Option.bind_eq_some_iff, Overflow.rollup?_eq_some_iff,
    Overflow.summarize?_eq_some_iff, Option.pure_def, Option.some.injEq]
  constructor
  · rintro ⟨models, ⟨rfl, hmodels⟩, stats, ⟨rfl, hsuccess, hslices⟩, rfl⟩
    exact ⟨rfl, hmodels, hsuccess, hslices⟩
  · rintro ⟨rfl, hmodels, hsuccess, hslices⟩
    exact ⟨_, ⟨rfl, hmodels⟩, _, ⟨rfl, hsuccess, hslices⟩, rfl⟩

/-- A program that does not stop at its sums has the exact ones. -/
theorem fits_of_overview? {search : String} {v : Overview} (hblank : Text.trim search = "")
    (h : Overflow.stops.overview? thresholds window records search = some v) :
    Fits (v.models.map fun card => card.model.totalSuccess.toInt).sum ∧
      Fits (v.models.map fun card => card.model.totalSlices.toInt).sum := by
  obtain ⟨rfl, -, hsuccess, hslices⟩ := overview?_eq_some_iff.mp h
  have hsum : ∀ count : ModelRollup → Int64,
      ((ofRecords thresholds window records search).models.map fun card => (count card.model).toInt)
        = ((rollup records window.hours).map count).map Int64.toInt := by
    intro count
    show ((filterByName _ search).map _).map _ = _
    rw [filterByName_of_blank hblank, List.map_map, List.map_map]
    rfl
  rw [hsum (·.totalSuccess), hsum (·.totalSlices)]
  exact ⟨hsuccess.fits, hslices.fits⟩

end Overview

namespace Dashboard

variable {σ σ' : Type} [KeyValueStore σ] [KeyValueStore σ'] {d : Dashboard} {w w' : World}
  {request request' : Request} {board : Board σ} {board' : Board σ'} {search search' : String}
  {payload : PublicHourlyPayload} {window : HourWindow}

theorem outcome_overview (hask : d.gateway.ask .publicHourly w.exchange = .ok payload)
    (hwindow : HourWindow.between payload.startHour payload.endHour = .ok window) :
    d.outcome w (.overview search)
      = .ok (Overview.ofRecords d.thresholds.forPublic window payload.rows search).toJson := by
  refine outcome_eq_ok_iff.mpr ⟨payload, hask, ?_⟩
  simp only [Inquiry.view, hwindow]

theorem sent_overview (h : Consults w request board .overview (.overview search))
    (hask : d.gateway.ask .publicHourly w.exchange = .ok payload)
    (hwindow : HourWindow.between payload.startHour payload.endHour = .ok window) :
    (Overview.ofRecords d.thresholds.forPublic window payload.rows search).Sent
      (d.respond w request board).1.response := by
  rw [h.response_eq, outcome_overview hask hwindow]
  exact (Overview.coherent_ofRecords search).sent

/--
**An overview is consistent, and a search only leaves out cards.**  Two requests for an overview
that are answered from one payload show the same figures and hours.  If one of them searches for
nothing, the other's cards are among its cards, and its cards are what the figures of both count.
The sums are the exact ones if these fit, as they do wherever a program that stops at a sum has this
overview; and it has this one or none.
-/
theorem respond_overview (h : Consults w request board .overview (.overview search))
    (h' : Consults w' request' board' .overview (.overview search'))
    (hask : d.gateway.ask .publicHourly w.exchange = .ok payload)
    (hask' : d.gateway.ask .publicHourly w'.exchange = .ok payload)
    (hwindow : HourWindow.between payload.startHour payload.endHour = .ok window) :
    ∃ v v' : Overview,
      v.Sent (d.respond w request board).1.response ∧
      v'.Sent (d.respond w' request' board').1.response ∧
      v.Summarizes d.thresholds.forPublic window payload.rows search ∧
      v'.Summarizes d.thresholds.forPublic window payload.rows search' ∧
      v.SharesFrame v' ∧ v.Coherent ∧
      (∀ o : Overflow, ∀ view,
        o.overview? d.thresholds.forPublic window payload.rows search = some view → view = v) ∧
      (Text.trim search' = "" →
        v.models.Sublist v'.models ∧ v'.Tallies ∧
        ∀ view, Overflow.stops.overview? d.thresholds.forPublic window payload.rows search'
          = some view →
            Fits (v'.models.map fun card => card.model.totalSuccess.toInt).sum ∧
            Fits (v'.models.map fun card => card.model.totalSlices.toInt).sum) := by
  refine ⟨_, _, sent_overview h hask hwindow, sent_overview h' hask' hwindow,
    Overview.summarizes_ofRecords search, Overview.summarizes_ofRecords search',
    Overview.sharesFrame_ofRecords search search', Overview.coherent_ofRecords search,
    fun o view hview => (Overview.overview?_eq_some_iff.mp hview).1, fun hblank =>
      ⟨Overview.sublist_ofRecords hblank search, Overview.tallies_ofRecords hblank, ?_⟩⟩
  intro view hview
  obtain ⟨rfl, -⟩ := Overview.overview?_eq_some_iff.mp hview
  exact Overview.fits_of_overview? hblank hview

/-- A success with two hours of two models, one of which has no slices. -/
def twoModelsReply : List UInt8 :=
  bytesOf ("\x7b\"success\":true,\"data\":\x7b\"start_hour\":0,\"end_hour\":7200," ++
    "\"rows\":[[\"fast\",3600,9,10],[\"idle\",0]]\x7d\x7d")

/-- A request for an overview, with a query or without. -/
def overviewRequest (query : Option String) : Request :=
  { path := "/v1/public/model_health", query := query.map bytesOf }

theorem consults_overview (x : Exchange) :
    Consults (worldOf x) (overviewRequest none) startBoard .overview (.overview "") :=
  ⟨rfl, rfl, rfl, fun h => by cases h⟩

/-- The window of two hours that the replies are about. -/
def twoHours : HourWindow := ⟨0, 7200, by decide, by decide, by decide, by decide⟩

theorem respond_overview_search :
    Consults (worldOf (.reply 200 twoModelsReply)) (overviewRequest (some "search=+Idle"))
        startBoard .overview (.overview " Idle") ∧
      ∃ payload : PublicHourlyPayload,
        sampleDashboard.gateway.ask .publicHourly (.reply 200 twoModelsReply) = .ok payload ∧
        HourWindow.between payload.startHour payload.endHour = .ok twoHours ∧
        ∃ v v' : Overview,
          v.Sent (sampleDashboard.respond (worldOf (.reply 200 twoModelsReply))
            (overviewRequest (some "search=+Idle")) startBoard).1.response ∧
          v'.Sent (sampleDashboard.respond (worldOf (.reply 200 twoModelsReply))
            (overviewRequest none) startBoard).1.response ∧
          v.hours = [0, 3600] ∧ v.models.map (·.model.modelName) = ["idle"] ∧
          (v'.models.map (·.model.modelName)).Perm ["fast", "idle"] ∧
          v.stats = v'.stats ∧ v'.stats.totalModels = 2 ∧ v'.stats.totalSlices.toInt = 10 := by
  have hquery : (Query.read [("search", .text)] (some (bytesOf "search=+Idle"))).toOption.map
      (fun q => (q.text? "search").getD "") = some " Idle" := by decide +kernel
  obtain ⟨q, hq, htext⟩ := Option.map_eq_some_iff.mp hquery
  have hsearch : Consults (worldOf (.reply 200 twoModelsReply))
      (overviewRequest (some "search=+Idle")) startBoard .overview (.overview " Idle") :=
    ⟨rfl, rfl, Option.bind_eq_some_iff.mpr ⟨q, hq, by rw [htext]; rfl⟩, fun h => by cases h⟩
  have hreply : (sampleDashboard.gateway.ask .publicHourly
      (.reply 200 twoModelsReply)).toOption.map (fun p =>
        let models := (Rollup.modelNames p.rows).map (Rollup.ofModel p.rows twoHours.hours)
        let found (search : String) := models.filter fun m => findsName search m.modelName
        (p.startHour, p.endHour, (found " Idle").map (·.modelName), (found "").map (·.modelName),
          (found "").map (·.totalSlices.toInt)))
      = some (0, 7200, ["idle"], ["fast", "idle"], [10, 0]) := by decide +kernel
  obtain ⟨payload, hpayload, hparts⟩ := Option.map_eq_some_iff.mp hreply
  simp only [Prod.mk.injEq] at hparts
  obtain ⟨hstart, hend, hidle, hboth, hslices⟩ := hparts
  have hask := eq_ok_of_toOption hpayload
  have hwindow : HourWindow.between payload.startHour payload.endHour = .ok twoHours := by
    rw [hstart, hend]
    rfl
  obtain ⟨v, v', hfound, hwhole, hshown, hshown', hframe, -, -, hcards⟩ :=
    respond_overview hsearch (consults_overview _) hask hask hwindow
  obtain ⟨-, htallies, -⟩ := hcards (by decide)
  have hnames : (v.models.map (·.model.modelName)).Perm ["idle"] := hidle ▸ hshown.perm _
  have hnames' : (v'.models.map (·.model.modelName)).Perm ["fast", "idle"] :=
    hboth ▸ hshown'.perm _
  have hten : (v'.models.map fun card => card.model.totalSlices.toInt).sum = 10 :=
    (hshown'.perm (·.totalSlices.toInt)).sum_eq.trans (congrArg List.sum hslices)
  refine ⟨hsearch, payload, hask, hwindow, v, v', hfound, hwhole, hshown.hours,
    List.perm_singleton.mp hnames, hnames', hframe.stats, ?_, ?_⟩
  · have hlength := hnames'.length_eq
    rw [List.length_map] at hlength
    rw [htallies.total, hlength]
    rfl
  · rw [htallies.slices.exact (by rw [hten]; decide), hten]

/-- A success with two models, whose slices do not fit in 64 bits together. -/
def heavyModelsReply : List UInt8 :=
  bytesOf ("\x7b\"success\":true,\"data\":\x7b\"start_hour\":0,\"end_hour\":7200,\"rows\":[" ++
    "[\"a\",0,4611686018427387904,4611686018427387904]," ++
    "[\"b\",0,4611686018427387904,4611686018427387904]]\x7d\x7d")

/-- The slices of the cards add up to more than the figure says, and a program that stops at a sum
has no overview. -/
theorem respond_overview_heavy :
    ∃ (payload : PublicHourlyPayload) (v : Overview),
      sampleDashboard.gateway.ask .publicHourly (.reply 200 heavyModelsReply) = .ok payload ∧
      v.Sent (sampleDashboard.respond (worldOf (.reply 200 heavyModelsReply))
        (overviewRequest none) startBoard).1.response ∧
      (v.models.map fun card => card.model.totalSlices.toInt).sum = 9223372036854775808 ∧
      v.stats.totalSlices.toInt = -9223372036854775808 ∧
      Overflow.stops.overview? .forPublic twoHours payload.rows "" = none := by
  have hreply : (sampleDashboard.gateway.ask .publicHourly
      (.reply 200 heavyModelsReply)).toOption.map (fun p =>
        let models := (Rollup.modelNames p.rows).map (Rollup.ofModel p.rows twoHours.hours)
        (p.startHour, p.endHour, (models.filter fun m => findsName "" m.modelName).map
          (·.totalSlices.toInt)))
      = some (0, 7200, [4611686018427387904, 4611686018427387904]) := by decide +kernel
  obtain ⟨payload, hpayload, hparts⟩ := Option.map_eq_some_iff.mp hreply
  simp only [Prod.mk.injEq] at hparts
  obtain ⟨hstart, hend, hslices⟩ := hparts
  have hask := eq_ok_of_toOption hpayload
  have hwindow : HourWindow.between payload.startHour payload.endHour = .ok twoHours := by
    rw [hstart, hend]
    rfl
  have hshown : Overview.Summarizes .forPublic twoHours payload.rows ""
      (.ofRecords .forPublic twoHours payload.rows "") := Overview.summarizes_ofRecords ""
  have htallies : (Overview.ofRecords .forPublic twoHours payload.rows "").Tallies :=
    Overview.tallies_ofRecords (by decide)
  have hsum : ((Overview.ofRecords .forPublic twoHours payload.rows "").models.map
      fun card => card.model.totalSlices.toInt).sum = 9223372036854775808 :=
    (hshown.perm (·.totalSlices.toInt)).sum_eq.trans (congrArg List.sum hslices)
  have hwrapped := htallies.slices.wrapped
  rw [hsum] at hwrapped
  refine ⟨payload, _, hask, sent_overview (consults_overview _) hask hwindow, hsum,
    (congrArg Int64.toInt hwrapped).trans (by decide), ?_⟩
  rw [Option.eq_none_iff_forall_ne_some]
  intro v hv
  obtain ⟨rfl, -⟩ := Overview.overview?_eq_some_iff.mp hv
  have hfits := (Overview.fits_of_overview? (by decide) hv).2
  rw [hsum] at hfits
  exact absurd hfits (by decide)

end Dashboard
end HealthBoard
