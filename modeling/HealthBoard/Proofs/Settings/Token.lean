/-
The token that is given in the environment.

A token can stand in the settings file or in a variable.  In the file it is a text and stays one.  A
variable has no type, and what the gateway gets is what its value is read as and turned into a text
again (`Environment.Reread`).  Nothing else in the settings hangs on it: `load_token` compares the
settings of two tokens, and carries `Setting.Apart` from the variable through what is laid after it
to the section where it is read.
-/
import HealthBoard.Dashboard.Board
import HealthBoard.Proofs.Gateway.Redirect
import HealthBoard.Proofs.Settings.Apart
import HealthBoard.Proofs.Settings.Reread
import HealthBoard.Settings.Loading

namespace HealthBoard

namespace Environment

/-- The variable that a token is given in. -/
def tokenVariable : String := "MODELPULSE__UPSTREAM__ACCESS_TOKEN"

/-- A variable that has no part in the token: it is none of the settings, or one elsewhere. -/
def LeavesToken (key value : String) : Prop :=
  ∀ setting, setting? key value = some setting →
    Setting.Passes "upstream" "access_token" (Setting.steps setting.1)

theorem setting?_tokenVariable (t : String) :
    setting? tokenVariable t = some ("upstream.access_token", .scalar name (scalarOf t)) := by
  have hstart : start.toList.isPrefixOf (Text.lowercase tokenVariable).toList = true := by
    decide +kernel
  have hkey : String.ofList (keyOf ((Text.lowercase tokenVariable).toList.drop start.length))
      = "upstream.access_token" := by decide +kernel
  unfold setting?
  simp only [if_pos hstart, hkey]

/-- No variable is nothing. -/
theorem optional_scalarOf {t token : String} {origin : Option String}
    (h : (Setting.scalar origin (scalarOf t)).asText = .ok token) :
    (Setting.optional Setting.asText) (.scalar origin (scalarOf t)) = .ok (some token) := by
  unfold Setting.optional
  split
  · rename_i heq
    rw [heq] at h
    cases h
  · rw [h]
    rfl

theorem steps_token : Setting.steps "upstream.access_token"
    = [.child "upstream", .child "access_token"] := by decide +kernel

/-- What a token leaves of its environment is the same for every token. -/
theorem settings_tokenVariable (before after : List (String × String)) (t : String) :
    settings (before ++ (tokenVariable, t) :: after)
      = settings before ++
        ("upstream.access_token", .scalar name (scalarOf t)) :: settings after := by
  simp [settings, List.filterMap_append, setting?_tokenVariable]

end Environment

open Setting (Apart ApartAt)

/-- The settings with another token. -/
def Settings.withToken (s : Settings) (token : String) : Settings :=
  { s with gateway := { s.gateway with accessToken := some token } }

/-! ### Reading the token -/

/-- What is read besides the token is the same for every token. -/
theorem GatewaySettings.ofSetting_apart {s s' x x' : Setting} {token : String}
    {gateway : GatewaySettings}
    (h : ApartAt "access_token" (fun t t' => t = x ∧ t' = x') s s')
    (htoken : (Setting.optional Setting.asText) x' = .ok (some token))
    (hgateway : GatewaySettings.ofSetting s = .ok gateway) :
    GatewaySettings.ofSetting s' = .ok { gateway with accessToken := some token } := by
  obtain ⟨y, y', -, hy', rfl, rfl⟩ := h.there
  unfold GatewaySettings.ofSetting at hgateway ⊢
  obtain ⟨_, hpart, hgateway⟩ := exists_of_bind_eq_ok hgateway
  rw [Section.ofSetting_table h.table] at hpart
  cases hpart
  obtain ⟨baseUrl, hbaseUrl, hgateway⟩ := exists_of_bind_eq_ok hgateway
  obtain ⟨timeout, htimeout, hgateway⟩ := exists_of_bind_eq_ok hgateway
  obtain ⟨_, -, hgateway⟩ := exists_of_bind_eq_ok hgateway
  obtain ⟨userId, huserId, hgateway⟩ := exists_of_bind_eq_ok hgateway
  obtain ⟨cache, hcache, hgateway⟩ := exists_of_bind_eq_ok hgateway
  obtain ⟨url, hurl, hgateway⟩ := exists_of_bind_eq_ok hgateway
  cases hgateway
  rw [h.get?_eq (by decide)] at hbaseUrl htimeout huserId hcache
  refine bind_eq_ok (Section.ofSetting_table h.table') ?_
  refine bind_eq_ok hbaseUrl ?_
  refine bind_eq_ok htimeout ?_
  refine bind_eq_ok ((Section.get?_eq_ok_iff h.table' hy').mpr ⟨_, htoken, rfl⟩) ?_
  refine bind_eq_ok huserId ?_
  refine bind_eq_ok hcache ?_
  refine bind_eq_ok (Section.require_eq_ok_iff.mpr (Section.require_eq_ok_iff.mp hurl)) ?_
  rfl

/-- The same holds of all settings. -/
theorem Settings.ofSetting_apart {s s' x x' : Setting} {token : String} {settings : Settings}
    (h : Apart "upstream" "access_token" x x' s s')
    (htoken : (Setting.optional Setting.asText) x' = .ok (some token))
    (hsettings : Settings.ofSetting s = .ok settings) :
    Settings.ofSetting s' = .ok (settings.withToken token) := by
  obtain ⟨u, u', hu, hu', happart⟩ := h.there
  unfold Settings.ofSetting at hsettings ⊢
  obtain ⟨_, hpart, hsettings⟩ := exists_of_bind_eq_ok hsettings
  rw [Section.ofSetting_table h.table] at hpart
  cases hpart
  obtain ⟨server, hserver, hsettings⟩ := exists_of_bind_eq_ok hsettings
  obtain ⟨database, hdatabase, hsettings⟩ := exists_of_bind_eq_ok hsettings
  obtain ⟨gateway?, hgateway?, hsettings⟩ := exists_of_bind_eq_ok hsettings
  obtain ⟨fingerprint, hfingerprint, hsettings⟩ := exists_of_bind_eq_ok hsettings
  obtain ⟨thresholds, hthresholds, hsettings⟩ := exists_of_bind_eq_ok hsettings
  obtain ⟨gateway, hgateway, hsettings⟩ := exists_of_bind_eq_ok hsettings
  cases hsettings
  obtain ⟨_, hread, hsome⟩ := (Section.get?_eq_ok_iff h.table hu).mp hgateway?
  rw [Section.require_eq_ok_iff.mp hgateway] at hsome
  cases hsome
  rw [ApartAt.get?_eq h (by decide)] at hserver hdatabase hfingerprint hthresholds
  refine bind_eq_ok (Section.ofSetting_table h.table') ?_
  refine bind_eq_ok hserver ?_
  refine bind_eq_ok hdatabase ?_
  refine bind_eq_ok ((Section.get?_eq_ok_iff h.table' hu').mpr
    ⟨_, GatewaySettings.ofSetting_apart happart htoken hread, rfl⟩) ?_
  refine bind_eq_ok hfingerprint ?_
  refine bind_eq_ok hthresholds ?_
  refine bind_eq_ok (Section.require_eq_ok_iff.mpr rfl) ?_
  rfl

/-! ### Sending the token -/

/-- The request for a question carries the token. -/
theorem Gateway.authorization_of_request? {α : Type} {g : Gateway} {token : String}
    (htoken : g.accessToken = some token) {q : Question α} {request : GatewayRequest}
    (hrequest : g.request? q = some request) :
    request.authorization = some ("Bearer " ++ token) := by
  unfold Gateway.request? at hrequest
  obtain ⟨address, -, hrequest⟩ := Option.bind_eq_some_iff.mp hrequest
  obtain ⟨authorization, hauthorization, hrequest⟩ := Option.bind_eq_some_iff.mp hrequest
  cases hrequest
  simp only [Gateway.authorization, htoken] at hauthorization
  split at hauthorization
  · exact (Option.some.inj hauthorization).symm
  · cases hauthorization

/-- Whatever is received carries the token, or nothing once it was sent on. -/
theorem Gateway.authorization_of_mem_received {α : Type} {g : Gateway} {token : String}
    (htoken : g.accessToken = some token) {q : Question α} {x : Exchange}
    {request : GatewayRequest} (h : request ∈ g.received q x) :
    request.authorization = some ("Bearer " ++ token) ∨
      request.authorization = none ∧ x.redirects ≠ [] := by
  by_cases hdirect : x.IsDirect
  · cases hrequest : g.request? q with
    | none =>
        rw [Gateway.received_of_none hrequest] at h
        cases h
    | some first =>
        rw [(Gateway.received_of_request hrequest).direct hdirect] at h
        split at h
        · cases h
        · rw [List.mem_singleton.mp h]
          exact .inl (Gateway.authorization_of_request? htoken hrequest)
  · rw [Exchange.isDirect_iff] at hdirect
    have hcarried : ∀ r ∈ g.received q x,
        r.authorization = some ("Bearer " ++ token) ∨ r.authorization = none := by
      refine Gateway.forall_mem_received (fun r redirect hr => ?_) fun first hfirst =>
        .inl (Gateway.authorization_of_request? htoken hfirst)
      show (if _ then r.authorization else none) = _ ∨ (if _ then r.authorization else none) = _
      split
      · exact hr
      · exact .inr rfl
    exact (hcarried request h).imp_right fun hnone => ⟨hnone, hdirect⟩

namespace Settings

open Environment

/-- The environment is laid over the file. -/
theorem load_eq_ok_iff {file : Option SettingsFile} {environment : List (String × String)}
    {s : Settings} :
    load file environment = .ok s ↔
      ∃ ofFile, file.elim (.ok []) SettingsFile.settings = .ok ofFile ∧
        ofSetting ((Setting.empty.lay ofFile).lay (Environment.settings environment)) = .ok s := by
  have hload : load file environment = file.elim (.ok []) SettingsFile.settings >>= fun ofFile =>
      ofSetting ((Setting.empty.lay ofFile).lay (Environment.settings environment)) := by
    cases file <;> rfl
  rw [hload]
  constructor
  · exact exists_of_bind_eq_ok
  · rintro ⟨ofFile, hofFile, hs⟩
    exact bind_eq_ok hofFile hs

/--
**The token of the environment is what its text is read as.**  If the settings can be loaded with
some token in the environment, they can be loaded with every other text there, and all else in them
is the same.  Their token, and so what every request carries that is not sent on to another host, is
what becomes of the text.  That is the text itself exactly if it is no other way to write a truth
value or a number, and never for one with capitals in a truth value or with a plus sign, an exponent
or a zero in front of a number.
-/
theorem load_token {file : Option SettingsFile} {before after : List (String × String)}
    {given : String} {s : Settings}
    (hafter : ∀ v ∈ after, LeavesToken v.1 v.2)
    (hvalid : load file (before ++ (tokenVariable, given) :: after) = .ok s) (t : String) :
    ∃ token, Reread t token ∧
      load file (before ++ (tokenVariable, t) :: after) = .ok (s.withToken token) ∧
      (s.withToken token).validate = s.validate ∧
      (∀ {α : Type} (q : Question α) (x : Exchange),
        (∀ request ∈ (s.withToken token).gateway.gateway.received q x,
          request.authorization = some ("Bearer " ++ token) ∨
            request.authorization = none ∧ x.redirects ≠ []) ∧
        ∀ request ∈ ((s.withToken token).gateway.gateway.received q x).head?,
          request.authorization = some ("Bearer " ++ token)) ∧
      (token = t ↔ Literal t) ∧ (Disguised t → token ≠ t) := by
  obtain ⟨token, hreread, htext⟩ := exists_reread t
  have hpaths : ∀ p ∈ Environment.settings after,
      Setting.Passes "upstream" "access_token" (Setting.steps p.1) := by
    intro p hp
    obtain ⟨v, hv, hsetting⟩ := List.mem_filterMap.mp hp
    exact hafter v hv p hsetting
  have htoken : (Setting.optional Setting.asText) (.scalar Environment.name (scalarOf t))
      = .ok (some token) := optional_scalarOf (htext _)
  have hload : load file (before ++ (tokenVariable, t) :: after) = .ok (s.withToken token) := by
    rw [load_eq_ok_iff] at hvalid ⊢
    obtain ⟨ofFile, hofFile, hvalid⟩ := hvalid
    refine ⟨ofFile, hofFile, ?_⟩
    rw [settings_tokenVariable, Setting.lay_append, Setting.lay_cons, steps_token] at hvalid ⊢
    exact Settings.ofSetting_apart ((Setting.apart_put _ _ _ _ _ _ _).lay hpaths) htoken hvalid
  refine ⟨token, hreread, hload, rfl, ?_, hreread.eq_iff, hreread.ne_of_disguised⟩
  intro α q x
  refine ⟨fun _ => Gateway.authorization_of_mem_received rfl, fun first hfirst => ?_⟩
  exact Gateway.authorization_of_request? rfl (Gateway.request?_of_head?_received hfirst)

/-- An environment with a gateway, a token for it and a port. -/
def sampleEnvironment (token : String) : List (String × String) :=
  [("MODELPULSE__UPSTREAM__BASE_URL", "http://localhost:3000"), (tokenVariable, token),
    ("MODELPULSE__SERVER__PORT", "8080")]

theorem leavesToken_port : LeavesToken "MODELPULSE__SERVER__PORT" "8080" := by
  intro setting hsetting
  have hkey : (setting? "MODELPULSE__SERVER__PORT" "8080").map (·.1) = some "server.port" := by
    decide +kernel
  rw [hsetting] at hkey
  have hsteps : Setting.steps "server.port" = [.child "server", .child "port"] := by decide +kernel
  rw [show setting.1 = "server.port" from Option.some.inj hkey, hsteps]
  exact .aside (by decide)

/-- A number with a sign and zeros in front is not the token that is sent. -/
theorem load_token_disguised :
    LeavesToken "MODELPULSE__SERVER__PORT" "8080" ∧ Disguised "+007" ∧
      ∃ s token, load none (sampleEnvironment "secret") = .ok s ∧
        load none (sampleEnvironment "+007") = .ok (s.withToken token) ∧ token ≠ "+007" := by
  have hvalid : (load none (sampleEnvironment "secret")).toOption.isSome = true := by
    decide +kernel
  have hdisguised : Disguised "+007" := by
    have hread : (Decimal.readInteger "+007").toOption = some 7 := by decide +kernel
    exact .integer (eq_ok_of_toOption hread) (.plus (by decide))
  obtain ⟨s, hs⟩ := Option.isSome_iff_exists.mp hvalid
  have hload := eq_ok_of_toOption hs
  obtain ⟨token, -, htoken, -, -, -, hne⟩ := @load_token none
    [("MODELPULSE__UPSTREAM__BASE_URL", "http://localhost:3000")]
    [("MODELPULSE__SERVER__PORT", "8080")] "secret" s
    (List.forall_mem_singleton.mpr leavesToken_port) hload "+007"
  exact ⟨leavesToken_port, hdisguised, s, token, hload, htoken, hne hdisguised⟩

/-- A settings file with a token. -/
def sampleFile : SettingsFile :=
  { name := "config.json", format := .json
    contents := bytesOf ("\x7b\"upstream\":\x7b\"base_url\":\"http://localhost:3000\"," ++
      "\"access_token\":\"007\"\x7d\x7d") }

/-- What is one token in the file is another one in the environment. -/
theorem load_token_differs :
    (load (some sampleFile) []).toOption.map (·.gateway.accessToken) = some (some "007") ∧
      (load none (sampleEnvironment "007")).toOption.map (·.gateway.accessToken)
        = some (some "7") := by
  decide +kernel

end Settings
end HealthBoard
