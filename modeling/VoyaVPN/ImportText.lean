import VoyaVPN.ImportLoop

/-! The reading of an import text apart from what it stores: what it reads does not depend on the
store, and a text read a second time stores nothing. -/
namespace ImportText

open Entities AppConfig ConfigMutation VoyaStore ActionRules ManagerSession ProfileNormalize
open ProfileManager SubscriptionManager ProfileSelection SubscriptionSelection ImportLoop

def subscriptionIdOf (session : Session) (place : Nat) : String :=
  "sub-" ++ drawnId session place

/-- What the reading of a text does to the store: subscriptions are added under drawn ids. -/
structure ReadFrame (before after : Session) : Prop where
  readings : after.readings = before.readings
  profiles : after.database.rows.profiles = before.database.rows.profiles
  drawn_le : before.drawn ≤ after.drawn
  added : ∀ item ∈ after.database.rows.subscriptions.rows,
    item ∈ before.database.rows.subscriptions.rows ∨
      ∃ place, before.drawn ≤ place ∧ place < after.drawn ∧ item.id = subscriptionIdOf before place
  lost : ∀ item ∈ before.database.rows.subscriptions.rows,
    item ∈ after.database.rows.subscriptions.rows ∨
      ∃ place, before.drawn ≤ place ∧ place < after.drawn ∧ item.id = subscriptionIdOf before place

theorem subscriptionIdOf_congr {before after : Session}
    (hreadings : after.readings = before.readings) (place : Nat) :
    subscriptionIdOf after place = subscriptionIdOf before place := by
  rw [subscriptionIdOf, subscriptionIdOf, drawnId, drawnId, hreadings]

theorem readFrame : Frame ReadFrame where
  refl state := ⟨rfl, rfl, Nat.le_refl _, fun _ h => Or.inl h, fun _ h => Or.inl h⟩
  trans := by
    intro first second third hfirst hsecond
    refine ⟨hsecond.readings.trans hfirst.readings, hsecond.profiles.trans hfirst.profiles,
      Nat.le_trans hfirst.drawn_le hsecond.drawn_le, ?_, ?_⟩
    · intro item hitem
      have hlow := hfirst.drawn_le
      have hhigh := hsecond.drawn_le
      rcases hsecond.added item hitem with hold | ⟨place, hplace, hbound, hid⟩
      · rcases hfirst.added item hold with holder | ⟨place, hplace, hbound, hid⟩
        · exact Or.inl holder
        · exact Or.inr ⟨place, hplace, by omega, hid⟩
      · rw [subscriptionIdOf_congr hfirst.readings] at hid
        exact Or.inr ⟨place, by omega, hbound, hid⟩
    · intro item hitem
      have hlow := hfirst.drawn_le
      have hhigh := hsecond.drawn_le
      rcases hfirst.lost item hitem with hkept | ⟨place, hplace, hbound, hid⟩
      · rcases hsecond.lost item hkept with hstill | ⟨place, hplace, hbound, hid⟩
        · exact Or.inl hstill
        · rw [subscriptionIdOf_congr hfirst.readings] at hid
          exact Or.inr ⟨place, by omega, hbound, hid⟩
      · exact Or.inr ⟨place, hplace, by omega, hid⟩

/-- The drawn subscription ids are new ones. -/
structure FreshSubscriptions (session : Session) (high : Nat) : Prop where
  stored : ∀ place, session.drawn ≤ place → place < high →
    ∀ item ∈ session.database.rows.subscriptions.rows, item.id ≠ subscriptionIdOf session place
  distinct : ∀ first second, session.drawn ≤ first → first < second → second < high →
    subscriptionIdOf session first ≠ subscriptionIdOf session second

theorem FreshSubscriptions.mono {session : Session} {low high : Nat}
    (hfresh : FreshSubscriptions session high) (hle : low ≤ high) :
    FreshSubscriptions session low where
  stored place hplace hbound := hfresh.stored place hplace (by omega)
  distinct first second hfirst hbefore hbound :=
    hfresh.distinct first second hfirst hbefore (by omega)

theorem ReadFrame.stays {start before after : Session} (hstart : ReadFrame start before)
    (hframe : ReadFrame before after) (hfresh : FreshSubscriptions start after.drawn)
    {item : SubItem} (hitem : item ∈ before.database.rows.subscriptions.rows) :
    item ∈ after.database.rows.subscriptions.rows := by
  have hlow := hstart.drawn_le
  rcases hframe.lost item hitem with hstays | ⟨place, hplace, hbound, hid⟩
  · exact hstays
  · rw [subscriptionIdOf_congr hstart.readings] at hid
    rcases hstart.added item hitem with hold | ⟨earlier, hearlier, hbefore, hsame⟩
    · exact absurd hid (hfresh.stored place (by omega) hbound item hold)
    · exact absurd (hsame.symm.trans hid)
        (hfresh.distinct earlier place hearlier (by omega) hbound)

section Subscriptions

theorem upsertSubscription_frame {before after : Session} {item : SubItem}
    (hid : item.id = subscriptionIdOf before before.drawn)
    (hdrawn : after.drawn = before.drawn + 1) (hreadings : after.readings = before.readings)
    (hrows : after.database.rows =
      { before.database.rows with
        subscriptions := before.database.rows.subscriptions.upsert item }) :
    ReadFrame before after ∧ item ∈ after.database.rows.subscriptions.rows := by
  have hsubscriptions : after.database.rows.subscriptions =
      before.database.rows.subscriptions.upsert item := by rw [hrows]
  have hitem : item ∈ after.database.rows.subscriptions.rows := by
    rw [hsubscriptions]
    exact (KeyedTable.mem_upsert ..).mpr (Or.inl rfl)
  refine ⟨⟨hreadings, by rw [hrows], by omega, ?_, ?_⟩, hitem⟩
  · intro row hrow
    rw [hsubscriptions] at hrow
    rcases (KeyedTable.mem_upsert ..).mp hrow with rfl | ⟨hold, _⟩
    · exact Or.inr ⟨before.drawn, Nat.le_refl _, by omega, hid⟩
    · exact Or.inl hold
  · intro row hrow
    by_cases hsame : row.id = item.id
    · exact Or.inr ⟨before.drawn, Nat.le_refl _, by omega, hsame.trans hid⟩
    · rw [hsubscriptions]
      exact Or.inl ((KeyedTable.mem_upsert ..).mpr (Or.inr ⟨hrow, hsame⟩))

def AddressStored (session : Session) (url : String) : Prop :=
  ∃ item ∈ session.database.rows.subscriptions.rows, item.url = url

theorem saveSubscription_new {item saved : SubItem} {before after : Session}
    (hid : RustText.trim item.id = "")
    (hrun : outcome (saveSubscription item) before = (.ok saved, after)) :
    ReadFrame before after ∧ AddressStored after (RustText.trim item.url) := by
  unfold saveSubscription at hrun
  dsimp only at hrun
  split at hrun
  · cases hrun
  · split at hrun
    · cases hrun
    · obtain ⟨id, drawn, hdraw, hsort⟩ := ok_of_bind hrun
      obtain ⟨maxSort, sorted, hquery, hwrite⟩ := ok_of_bind hsort
      obtain ⟨_, written, hwritten, hselect⟩ := ok_of_bind hwrite
      obtain ⟨_, selected, hselected, hreturn⟩ := ok_of_bind hselect
      have hblank : decide ((normalizeSubscription item).id = "") = true := decide_eq_true hid
      rw [hblank] at hdraw
      have hselection : selected.database.rows = written.database.rows ∧
          selected.drawn = written.drawn ∧ selected.readings = written.readings := by
        cases hselected
        dsimp only
        split <;> exact ⟨rfl, rfl, rfl⟩
      obtain ⟨hrows, hdrawn, hreadings⟩ := hselection
      cases hreturn
      cases hdraw
      cases hquery
      cases hwritten
      have hwrite := upsertSubscription_frame rfl hdrawn hreadings hrows
      exact ⟨hwrite.1, _, hwrite.2, rfl⟩

theorem addSubscriptionFromUrl_yields (url : String) :
    Yields (addSubscriptionFromUrl url) fun before _ after =>
      ReadFrame before after ∧ AddressStored after (RustText.trim url) ∧
        RustText.trim url ≠ "" ∧ isHttpUrl (RustText.trim url) = true := by
  intro before saved after hrun
  unfold addSubscriptionFromUrl at hrun
  dsimp only at hrun
  split at hrun
  · cases hrun
  · rename_i hnonempty
    split at hrun
    · cases hrun
    · rename_i hhttp
      obtain ⟨found, queried, hquery, hrest⟩ := ok_of_bind hrun
      obtain ⟨hfound, rfl⟩ := yields_query _ _ _ _ hquery
      have hhttp : isHttpUrl (RustText.trim url) = true := by simpa using hhttp
      cases found with
      | some existing =>
        cases hrest
        have hmem := List.mem_of_find?_eq_some hfound.symm
        have hurl := List.find?_some hfound.symm
        exact ⟨readFrame.refl _, ⟨saved, hmem, by simpa using hurl⟩, hnonempty, hhttp⟩
      | none =>
        obtain ⟨hframe, hstored⟩ := saveSubscription_new (by rfl) hrest
        rw [RustText.trim_trim] at hstored
        exact ⟨hframe, hstored, hnonempty, hhttp⟩

theorem addSubscriptionFromUrl_again {url : String} {session : Session}
    (hstored : AddressStored session (RustText.trim url)) (hnonempty : RustText.trim url ≠ "")
    (hhttp : isHttpUrl (RustText.trim url) = true) :
    ∃ existing, outcome (addSubscriptionFromUrl url) session = (.ok existing, session) := by
  unfold addSubscriptionFromUrl
  dsimp only
  rw [if_neg hnonempty, if_neg (by simp [hhttp])]
  have hquery : outcome (query fun store => store.subscriptionByUrl (RustText.trim url) :
      Action Session SubscriptionManagerError _) session =
        (.ok (session.database.subscriptionByUrl (RustText.trim url)), session) := rfl
  rw [outcome_bind_ok hquery]
  obtain ⟨item, hitem, hurl⟩ := hstored
  cases hfound : session.database.subscriptionByUrl (RustText.trim url) with
  | some existing => exact ⟨existing, rfl⟩
  | none =>
    have hnone := List.find?_eq_none.mp hfound item hitem
    simp [hurl] at hnone

end Subscriptions

section Reading

variable (parsers : ImportParsers) (subscriptionId : String)

def readLine (state : ParsedImportText × List String) (line : String × Nat) :
    ParsedImportText × List String :=
  let (parsed, seen) := state
  if subscriptionId ≠ "" ∧ line.1 ∈ seen then state
  else
    let seen := if subscriptionId ≠ "" then line.1 :: seen else seen
    if RustText.trim subscriptionId = "" ∧ isHttpUrl line.1 then
      ({ parsed with
        addedSubscription := true
        messages := parsed.messages ++ ["Line " ++ toString (line.2 + 1) ++
          " added as a subscription source; run subscription update to import its profiles."] },
        seen)
    else
      match parsers.parseShareLink line.1 with
      | .ok profile => ({ parsed with profiles := parsed.profiles ++ [profile] }, seen)
      | .error error =>
        if shouldReportLineParseError line.1 then
          ({ parsed with
            failedLines := parsed.failedLines + 1
            messages := parsed.messages ++
              ["Line " ++ toString (line.2 + 1) ++ " was skipped: " ++ error] }, seen)
        else (parsed, seen)

def readContent (parsed : ParsedImportText) (content : String) : ParsedImportText :=
  let counted :=
    { parsed with
      discardedNodeOverrides :=
        parsed.discardedNodeOverrides + parsers.countDiscardedNodeOverrides content }
  let read := ((importLines content).zipIdx.foldl (readLine parsers subscriptionId) (counted, [])).1
  { read with profiles := read.profiles ++ wholeTextProfiles parsers content subscriptionId }

def importContents (text : String) : List String :=
  (parsers.decodeBase64Payload text).toList ++ [text]

def readText (text : String) : ParsedImportText :=
  (importContents parsers text).foldl (readContent parsers subscriptionId) {}

/-- The addresses of a line that adds a subscription are stored. -/
def LineStored (line : String) (session : Session) : Prop :=
  subscriptionId = "" → isHttpUrl line = true → AddressStored session (RustText.trim line)

def ContentStored (content : String) (session : Session) : Prop :=
  ∀ line ∈ importLines content, LineStored subscriptionId line session

variable {parsers subscriptionId}

theorem isHttpUrl_trim (url : String) : isHttpUrl (RustText.trim url) = isHttpUrl url := by
  rw [isHttpUrl, isHttpUrl, RustText.trim_trim]

theorem trim_ne_empty_of_isHttpUrl {url : String} (hhttp : isHttpUrl url = true) :
    RustText.trim url ≠ "" := by
  intro hempty
  rw [isHttpUrl, hempty] at hhttp
  exact absurd hhttp (by decide)

theorem parseLine_yields (state : ParsedImportText × List String) (line : String × Nat) :
    Yields (parseLine parsers subscriptionId state line) fun before value after =>
      value = readLine parsers subscriptionId state line ∧ ReadFrame before after ∧
        LineStored subscriptionId line.1 after := by
  intro before value after hrun
  unfold parseLine at hrun
  unfold readLine
  dsimp only at hrun ⊢
  split at hrun
  · rename_i hskipped
    cases hrun
    refine ⟨by rw [if_pos hskipped], readFrame.refl _, fun hnone => absurd hnone hskipped.1⟩
  · rename_i hskipped
    rw [if_neg hskipped]
    split at hrun
    · rename_i hadds
      rw [if_pos hadds]
      obtain ⟨saved, between, hsave, hreturn⟩ := ok_of_bind hrun
      obtain ⟨hframe, hstored, _, _⟩ := addSubscriptionFromUrl_yields _ _ _ _ hsave
      cases hreturn
      exact ⟨rfl, hframe, fun _ _ => hstored⟩
    · rename_i hadds
      rw [if_neg hadds]
      have hnone : LineStored subscriptionId line.1 before :=
        fun hblank hhttp => absurd ⟨by rw [hblank]; decide, hhttp⟩ hadds
      cases hlink : parsers.parseShareLink line.1 with
      | ok profile =>
        rw [hlink] at hrun
        cases hrun
        exact ⟨rfl, readFrame.refl _, hnone⟩
      | error error =>
        rw [hlink] at hrun
        dsimp only at hrun ⊢
        split at hrun
        · rename_i hreport
          rw [if_pos hreport]
          cases hrun
          exact ⟨rfl, readFrame.refl _, hnone⟩
        · rename_i hreport
          rw [if_neg hreport]
          cases hrun
          exact ⟨rfl, readFrame.refl _, hnone⟩

theorem parseLine_again {state : ParsedImportText × List String} {line : String × Nat}
    {session : Session} (hsubscription : subscriptionId = "" ∨ RustText.trim subscriptionId ≠ "")
    (hstored : LineStored subscriptionId line.1 session) :
    outcome (parseLine parsers subscriptionId state line) session =
      (.ok (readLine parsers subscriptionId state line), session) := by
  unfold parseLine readLine
  dsimp only
  split
  · rfl
  · split
    · rename_i hadds
      rcases hsubscription with hblank | hnamed
      · obtain ⟨existing, hrun⟩ := addSubscriptionFromUrl_again (hstored hblank hadds.2)
          (trim_ne_empty_of_isHttpUrl hadds.2) ((isHttpUrl_trim _).trans hadds.2)
        rw [outcome_bind_ok hrun]
        rfl
      · exact absurd hadds.1 hnamed
    · cases parsers.parseShareLink line.1 with
      | ok profile => rfl
      | error error =>
        dsimp only
        split <;> rfl

section Loops

variable {ε α ι : Type} {step : α → ι → Action Session ε α} {read : α → ι → α}
  {stored : ι → Session → Prop}

/-- A loop of the reading: what every step stores is still there at its end when the ids that it
draws are new. -/
theorem foldlM_reads
    (hstep : ∀ value item, Yields (step value item) fun before next after =>
      next = read value item ∧ ReadFrame before after ∧
        ∀ start, ReadFrame start before → FreshSubscriptions start after.drawn → stored item after)
    (hstays : ∀ item start before after, ReadFrame start before → ReadFrame before after →
      FreshSubscriptions start after.drawn → stored item before → stored item after)
    (items : List ι) (value : α) : Yields (items.foldlM step value) fun before result after =>
      result = items.foldl read value ∧ ReadFrame before after ∧
        ∀ start, ReadFrame start before → FreshSubscriptions start after.drawn →
          ∀ item ∈ items, stored item after := by
  induction items generalizing value with
  | nil =>
    intro before result after hrun
    cases hrun
    exact ⟨rfl, readFrame.refl _, by simp⟩
  | cons item items ih =>
    intro before result after hrun
    rw [List.foldlM_cons] at hrun
    obtain ⟨next, between, hfirst, hrest⟩ := ok_of_bind hrun
    obtain ⟨rfl, hframe, hstored⟩ := hstep _ _ _ _ _ hfirst
    obtain ⟨hresult, hframes, hall⟩ := ih _ _ _ _ hrest
    refine ⟨hresult, readFrame.trans hframe hframes, fun start hstart hfresh other hother => ?_⟩
    have hbetween := readFrame.trans hstart hframe
    rcases List.mem_cons.mp hother with rfl | hother
    · exact hstays _ _ _ _ hbetween hframes hfresh
        (hstored start hstart (hfresh.mono hframes.drawn_le))
    · exact hall start hbetween hfresh other hother

end Loops

theorem LineStored.stays {line : String} {start before after : Session}
    (hstart : ReadFrame start before) (hframe : ReadFrame before after)
    (hfresh : FreshSubscriptions start after.drawn)
    (hstored : LineStored subscriptionId line before) : LineStored subscriptionId line after := by
  intro hblank hhttp
  obtain ⟨item, hitem, hurl⟩ := hstored hblank hhttp
  exact ⟨item, ReadFrame.stays hstart hframe hfresh hitem, hurl⟩

theorem parseContent_yields (parsed : ParsedImportText) (content : String) :
    Yields (parseContent parsers subscriptionId parsed content) fun before value after =>
      value = readContent parsers subscriptionId parsed content ∧ ReadFrame before after ∧
        ∀ start, ReadFrame start before → FreshSubscriptions start after.drawn →
          ContentStored subscriptionId content after := by
  intro before value after hrun
  obtain ⟨⟨read, seen⟩, between, hloop, hreturn⟩ := ok_of_bind hrun
  obtain ⟨hread, hframe, hstored⟩ := foldlM_reads
    (fun state line => (parseLine_yields state line).mono fun _ _ _ hpost =>
      ⟨hpost.1, hpost.2.1, fun _ _ _ => hpost.2.2⟩)
    (fun line _ _ _ hstart hframe hfresh hstored =>
      LineStored.stays hstart hframe hfresh hstored) _ _ _ _ _ hloop
  cases hreturn
  refine ⟨by rw [readContent, ← hread], hframe, fun start hstart hfresh line hline => ?_⟩
  obtain ⟨place, hplace⟩ := List.mem_iff_getElem?.mp hline
  exact hstored start hstart hfresh (line, place) (List.mk_mem_zipIdx_iff_getElem?.mpr hplace)

theorem parseImportText_yields (text : String) :
    Yields (parseImportText parsers text subscriptionId) fun before value after =>
      value = readText parsers subscriptionId text ∧ ReadFrame before after ∧
        ¬(value.profiles = [] ∧ value.addedSubscription = false ∧ value.failedLines = 0) ∧
        (FreshSubscriptions before after.drawn →
          ∀ content ∈ importContents parsers text, ContentStored subscriptionId content after) := by
  intro before value after hrun
  obtain ⟨parsed, between, hloop, hcheck⟩ := ok_of_bind hrun
  obtain ⟨hread, hframe, hstored⟩ := foldlM_reads
    (fun parsed content => parseContent_yields parsed content)
    (fun content _ _ _ hstart hframe hfresh hstored line hline =>
      (hstored line hline).stays hstart hframe hfresh) _ _ _ _ _ hloop
  split at hcheck
  · cases hcheck
  · rename_i hsome
    cases hcheck
    exact ⟨hread, hframe, hsome, hstored _ (readFrame.refl _)⟩

theorem parseImportText_again {text : String} {session : Session}
    (hsubscription : subscriptionId = "" ∨ RustText.trim subscriptionId ≠ "")
    (hstored : ∀ content ∈ importContents parsers text,
      ContentStored subscriptionId content session)
    (hsome : ¬((readText parsers subscriptionId text).profiles = [] ∧
      (readText parsers subscriptionId text).addedSubscription = false ∧
        (readText parsers subscriptionId text).failedLines = 0)) :
    outcome (parseImportText parsers text subscriptionId) session =
      (.ok (readText parsers subscriptionId text), session) := by
  have hcontent : ∀ content ∈ importContents parsers text, ∀ parsed,
      outcome (parseContent parsers subscriptionId parsed content) session =
        (.ok (readContent parsers subscriptionId parsed content), session) := by
    intro content hcontent parsed
    have hlines : ∀ line ∈ (importLines content).zipIdx, ∀ state,
        outcome (parseLine parsers subscriptionId state line) session =
          (.ok (readLine parsers subscriptionId state line), session) :=
      fun line hline state => parseLine_again hsubscription
        (hstored content hcontent line.1 (List.fst_mem_of_mem_zipIdx hline))
    rw [parseContent, outcome_bind_ok (outcome_foldlM_pure hlines _)]
    rfl
  have hread : outcome ((importContents parsers text).foldlM
    (parseContent parsers subscriptionId) {})
      session = (.ok (readText parsers subscriptionId text), session) :=
    outcome_foldlM_pure hcontent {}
  rw [parseImportText, show (parsers.decodeBase64Payload text).toList ++ [text] =
    importContents parsers text from rfl, outcome_bind_ok hread, if_neg hsome]
  rfl

end Reading

end ImportText
