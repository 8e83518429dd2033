-- SUMMARY: A step of a dispatch keeps subscriptions tracked, and keeps the scope that owns what it subscribes to.
import Exchange.Proofs.Dispatch.Counting
import Exchange.Proofs.Hub.Tracking

/-!
# Who owns what a request subscribes to

Handlers work on the hub through effects, and each effect keeps subscriptions
tracked. The scope of a dispatch is the same from its start to its end, so what
its handlers subscribe to has one owner.
-/

namespace Exchange

open Hub (KeepsTrack)

namespace Switch

theorem keepsTrack_revisePlugin (s : Switch) (p : Ref .plugin) (f : Plugin → Plugin) :
    KeepsTrack s.hub (s.revisePlugin p f).hub :=
  .of_eq rfl rfl

theorem keepsTrack_stopPlugin (s : Switch) (p : Ref .plugin) : KeepsTrack s.hub (s.stopPlugin p).hub := by
  unfold stopPlugin
  cases s.plugin? p with
  | none => exact .refl s.hub
  | some plugin =>
    have hclose := Hub.keepsTrack_closeScope (s.revisePlugin p (Plugin.setState .stopping)).hub plugin.scope
    exact ((s.keepsTrack_revisePlugin p _).trans hclose).trans (.of_eq rfl rfl)

theorem keepsTrack_removePlugin (s : Switch) (name : PluginName) : KeepsTrack s.hub (s.removePlugin name).1.hub := by
  rcases s.hub_removePlugin name with ⟨-, hhub⟩ | ⟨p, -, t, ht, hhub⟩
  · exact hhub ▸ .refl s.hub
  · rw [hhub, ← ht]
    exact (t.keepsTrack_stopPlugin p).trans (keepsTrack_revisePlugin _ p _)

theorem sameBooks_holdSink (s : Switch) (name : Option String) (c : Ref .channel) :
    Hub.SameBooks s.hub (s.holdSink name c).hub := by
  cases name with
  | none => exact ⟨rfl, rfl, rfl, rfl⟩
  | some name =>
    simp only [holdSink, releaseSink]
    cases Members.get? name s.sinks <;> exact ⟨rfl, rfl, rfl, rfl⟩

theorem keepsTrack_perform (s : Switch) (slot : Slot) (scope : Ref .scope) (e : Effect) :
    KeepsTrack s.hub (s.perform slot scope e).1.hub := by
  cases e with
  | respond message => exact .of_sameBooks (Hub.sameBooks_setBody s.hub slot (.message message))
  | setStatus status | setCode code | look => exact .refl s.hub
  | note text => exact s.hub.keepsTrack_note _
  | stream items hold =>
    have hopen := Hub.sameBooks_openStream s.hub slot
    have huse := Hub.sameBooks_useAll (s.hub.openStream slot).1 (s.hub.openStream slot).2.2 items
    have hhold := sameBooks_holdSink
      { s with hub := ((s.hub.openStream slot).1.useAll (s.hub.openStream slot).2.2 items).1 } hold
      (s.hub.openStream slot).2.2
    exact .of_sameBooks ((hopen.trans huse).trans hhold)
  | forward items =>
    have huse := Hub.sameBooks_useAll s.hub.openChannel.1 s.hub.openChannel.2 items
    have hproduced : Hub.SameBooks s.hub
        ((s.hub.openChannel.1.useAll s.hub.openChannel.2 items).1.dropSink s.hub.openChannel.2) :=
      ⟨huse.managers, huse.scopes, huse.services, huse.journal⟩
    exact .of_sameBooks (hproduced.trans (Hub.sameBooks_setBody _ slot (.stream (.channel s.hub.openChannel.2))))
  | wrap f =>
    obtain ⟨status, statusCode, body⟩ := slot
    cases body <;> exact .refl s.hub
  | subscribe manager topic cleanup => exact s.hub.keepsTrack_subscribe manager slot scope topic cleanup
  | unsubscribe manager sid topic => exact s.hub.keepsTrack_unsubscribe manager slot sid topic
  | finish manager sid => exact s.hub.keepsTrack_finish manager sid
  | publish manager topic message => exact s.hub.keepsTrack_publish manager topic message
  | enter service topic => exact s.hub.keepsTrack_enterService service topic
  | leave service topic => exact s.hub.keepsTrack_leaveService service topic
  | closeScope => exact s.hub.keepsTrack_closeScope scope
  | attach place what keep =>
    have hhub : (s.perform slot scope (.attach place what keep)).1.hub = s.hub := hub_attach s place what keep
    exact hhub ▸ .refl s.hub
  | detach router pattern target =>
    have hhub : (s.perform slot scope (.detach router pattern target)).1.hub = s.hub := hub_detach s router pattern target
    exact hhub ▸ .refl s.hub
  | removePlugin name => exact s.keepsTrack_removePlugin name

end Switch

open Switch (keepsTrack_revisePlugin)

namespace Activity

/-- A step keeps subscriptions tracked, and the scope. -/
def Keeps (a : Activity) (s : Switch) (r : Activity × Switch) : Prop :=
  KeepsTrack s.hub r.2.hub ∧ r.1.scope = a.scope

variable (a : Activity) (s : Switch)

theorem keeps_dropBody (b : Activity) (h : b.scope = a.scope) (body : Body Stream) :
    a.Keeps s (b, { s with hub := s.hub.dropBody body }) := by
  refine ⟨?_, h⟩
  cases body with
  | empty | message v => exact .refl s.hub
  | stream inner => exact .of_sameBooks (Hub.sameBooks_dropStream s.hub inner)

theorem keeps_leavePlugin (p : Ref .plugin) (path : String) (rest : Chain) (result : Except Failure Unit) :
    a.Keeps s (a.leavePlugin s p path rest result) := by
  have hrevise (f g : Plugin → Plugin) : KeepsTrack s.hub ((s.revisePlugin p f).revisePlugin p g).hub := .of_eq rfl rfl
  cases result with
  | ok _ =>
    simp only [leavePlugin]
    cases a.slot.body with
    | stream inner => exact ⟨.of_eq rfl rfl, rfl⟩
    | empty | message v => exact ⟨hrevise Plugin.finish Plugin.release, rfl⟩
  | error f =>
    simp only [leavePlugin]
    cases f.isNoRoute with
    | false => exact ⟨hrevise Plugin.finish Plugin.release, rfl⟩
    | true =>
      by_cases hpath : path = "/"
      · simp only [hpath, if_true]
        have hset (info : Value) := Hub.sameBooks_setBody (s.revisePlugin p Plugin.finish).hub
          { a.slot with status := some .ok } (.message info)
        have hpass (info : Value) : a.Keeps s
            ({ a with slot := ((s.revisePlugin p Plugin.finish).hub.setBody { a.slot with status := some .ok }
                (.message info)).2 }.passPlugin
              { s.revisePlugin p Plugin.finish with
                hub := ((s.revisePlugin p Plugin.finish).hub.setBody { a.slot with status := some .ok }
                  (.message info)).1 } p (.ok ())) :=
          ⟨.of_eq (hset info).managers (hset info).scopes, rfl⟩
        exact hpass _
      · simp only [hpath, if_false, if_true]
        exact ⟨.of_eq rfl rfl, rfl⟩

theorem keeps_goBack (result : Except Failure Unit) : a.Keeps s (a.goBack s result) := by
  cases hstack : a.stack with
  | nil =>
    cases result with
    | error f =>
      simp only [goBack, hstack]
      exact a.keeps_dropBody s _ rfl a.slot.body
    | ok _ =>
      simp only [goBack, hstack]
      exact ⟨.refl s.hub, rfl⟩
  | cons level stack =>
    simp only [goBack, hstack]
    cases level with
    | handler k rest => exact ⟨.refl s.hub, rfl⟩
    | router rest =>
      cases result with
      | ok _ => exact ⟨.refl s.hub, rfl⟩
      | error f =>
        dsimp only
        split <;> exact ⟨.refl s.hub, rfl⟩
    | plugin p path rest => exact { a with stack }.keeps_leavePlugin s p path rest result
    | bypass p => exact ⟨.of_eq rfl rfl, rfl⟩

theorem keeps_unwind : a.Keeps s (a.unwind s) := by
  unfold unwind
  split
  · exact a.keeps_dropBody s _ rfl a.slot.body
  · exact ⟨.of_eq rfl rfl, rfl⟩
  · exact ⟨.of_eq rfl rfl, rfl⟩
  · exact ⟨.refl s.hub, rfl⟩

theorem keeps_tryLink (link : Link Target) (rest : Chain) : a.Keeps s (a.tryLink s link rest) := by
  unfold tryLink
  cases link.target with
  | handler h =>
    dsimp only
    cases s.handlers.get? h <;> exact ⟨.refl s.hub, rfl⟩
  | router r => exact ⟨.refl s.hub, rfl⟩
  | plugin p =>
    dsimp only
    cases s.plugin? p with
    | none => exact ⟨.refl s.hub, rfl⟩
    | some plugin =>
      dsimp only [tryPlugin]
      split
      · split <;> exact ⟨.of_eq rfl rfl, rfl⟩
      · exact ⟨.refl s.hub, rfl⟩

theorem step_keeps : a.Keeps s (a.step s) := by
  unfold step
  cases a.control with
  | run plan rest =>
    cases plan with
    | done | panic | next | call => exact ⟨.refl s.hub, rfl⟩
    | perform e k => exact ⟨s.keepsTrack_perform a.slot a.scope e, rfl⟩
    | install place keep handler k =>
      have hhub : (a.runPlan s (.install place keep handler k) rest).2.hub = s.hub := s.hub_install place keep handler
      exact ⟨hhub ▸ .refl s.hub, rfl⟩
  | next chain =>
    obtain ⟨links, path⟩ := chain
    cases links with
    | nil => exact ⟨.refl s.hub, rfl⟩
    | cons link links => exact a.keeps_tryLink s link ⟨links, path⟩
  | call router path => exact ⟨.refl s.hub, rfl⟩
  | back result => exact a.keeps_goBack s result
  | unwind => exact a.keeps_unwind s
  | await inbox k rest | settled result => exact ⟨.refl s.hub, rfl⟩

end Activity

end Exchange
