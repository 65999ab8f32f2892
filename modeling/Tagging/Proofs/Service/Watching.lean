import Tagging.Proofs.Service.Lifetime

/-!
# Who sees a change

Whoever listens is told of each change that has been made, and who may see it is settled by the
grants that are in force once it is made, before those on a deleted object go. What is announced
stays as it is, whatever happens to the grants later.
-/

namespace Tagging

/-- The notice is seen by the principals who may view the events of its target by these grants. -/
def Notice.SettledBy (notice : Notice) (grants : GrantIndex) : Prop :=
  ∀ principal, notice.visibleTo principal =
    grants.allows principal .eventsView (some notice.event.target)

namespace Feed

/-! ### What a listener gets -/

private theorem sent_foldl_send (notices : List Notice) (feed : Feed) :
    (notices.foldl send feed).sent = feed.sent + notices.length := by
  induction notices generalizing feed with
  | nil => rfl
  | cons notice notices ih =>
    rw [List.foldl_cons, ih, List.length_cons]
    exact Nat.succ_add_eq_add_succ ..

private theorem recent_foldl_send {notices : List Notice} (some : notices ≠ []) (feed : Feed) :
    (notices.foldl send feed).recent = (notices.reverse ++ feed.recent).take capacity := by
  induction notices generalizing feed with
  | nil => exact absurd rfl some
  | cons notice notices ih =>
    cases notices with
    | nil => rfl
    | cons next notices =>
      have room : capacity - (notices.length + 1) ≤ capacity := Nat.sub_le ..
      rw [List.foldl_cons, ih (List.cons_ne_nil _ _), send, List.reverse_cons (a := notice),
        List.append_assoc, List.singleton_append, List.take_append, List.take_append,
        List.take_take]
      simp [room]

private theorem waiting_foldl_send (notices : List Notice) (feed : Feed) :
    (notices.foldl send feed).waiting feed.subscribe =
      ⟨notices.length - capacity, notices.drop (notices.length - capacity)⟩ := by
  by_cases none : notices = []
  · subst none
    simp [waiting, subscribe]
  · have behind : (notices.foldl send feed).sent - feed.sent = notices.length := by
      rw [sent_foldl_send, Nat.add_sub_cancel_left]
    have kept : min notices.length capacity ≤ notices.reverse.length := by
      rw [List.length_reverse]
      exact Nat.min_le_left ..
    have left : notices.length - min notices.length capacity = notices.length - capacity := by
      omega
    have missed : notices.length - ((notices.reverse ++ feed.recent).take capacity).length =
        notices.length - capacity := by
      rw [List.length_take, List.length_append, List.length_reverse]
      omega
    simp only [waiting, subscribe, behind, recent_foldl_send none, missed, List.take_take,
      List.take_append_of_le_length kept, List.take_reverse, left, List.reverse_reverse]

end Feed

namespace Service

/-! ### What is announced -/

/-- Installing configured grants is not announced. -/
theorem feed_bootstrap (service : Service) (grants : List Grant) :
    (service.bootstrap grants).2.feed = service.feed := by
  have came := service.bootstrap_cases grants
  generalize service.bootstrap grants = call at came ⊢
  cases came <;> rfl

/-- Each step leaves the notices, and announces at most one. -/
theorem feed_step (service : Service) (step : Step) :
    ∃ newer : List Notice, (service.step step).feed = newer.foldl Feed.send service.feed := by
  cases step with
  | perform stamp principal command =>
    obtain same | ⟨operation, asked, changed, _, _, done⟩ :=
      service.perform_cases stamp principal command
    · exact ⟨[], congrArg Service.feed same⟩
    · exact ⟨[_], congrArg Service.feed done⟩
  | bootstrap grants => exact ⟨[], service.feed_bootstrap grants⟩
  | reach reachable => exact ⟨[], rfl⟩

/-- A run leaves the notices, and announces more. -/
theorem feed_run (service : Service) (steps : List Step) :
    ∃ newer : List Notice, (service.run steps).feed = newer.foldl Feed.send service.feed := by
  refine run_induction
    (fun after ↦ ∃ newer : List Notice, after.feed = newer.foldl Feed.send service.feed)
    ⟨[], rfl⟩ fun before step _ ⟨sooner, earlier⟩ ↦ ?_
  obtain ⟨newer, later⟩ := before.feed_step step
  exact ⟨sooner ++ newer, by rw [later, earlier, List.foldl_append]⟩

private theorem head?_waiting_run {before after : Service} {notice : Notice}
    (sent : after.feed = before.feed.send notice) (steps : List Step)
    (room : (after.run steps).feed.sent - before.feed.sent ≤ Feed.capacity) :
    ((after.run steps).feed.waiting before.feed.subscribe).notices.head? = some notice := by
  obtain ⟨newer, later⟩ := after.feed_run steps
  have all : (after.run steps).feed = (notice :: newer).foldl Feed.send before.feed := by
    rw [later, sent, List.foldl_cons]
  rw [all, Feed.sent_foldl_send, Nat.add_sub_cancel_left] at room
  rw [all, Feed.waiting_foldl_send, Nat.sub_eq_zero_of_le room]
  rfl

end Service

namespace Operation

private theorem regrant_of_purges {operation : Operation} (purges : operation.purges)
    (index : GrantIndex) : operation.regrant index = index := by
  cases operation with
  | grant | revoke => cases purges
  | _ => rfl

/-- An operation that succeeds is announced, and the notice is of its event. It is seen by the
principals who may view the events of the target by the grants in force once the change is made: for
a deletion those from before, and for any other operation those from after. The notice is what a
listener gets who began before, whatever happens later. -/
theorem run_watched (operation : Operation) (service : Service) (stamp : Stamp) (actor : Principal)
    {value : operation.Value}
    (done : (operation.run service stamp actor).result = .ok value) :
    let after := (operation.run service stamp actor).service
    ∃ notice : Notice,
      after.feed = service.feed.send notice ∧
        after.state.events.toList = service.state.events.toList ++ [notice.event] ∧
        notice.SettledBy (operation.change stamp service.state).2.grants ∧
        (operation.purges → notice.SettledBy service.state.grants) ∧
        (¬ operation.purges → notice.SettledBy after.state.grants) ∧
        ∀ steps : List Step,
          let later := (after.run steps).feed
          later.sent - service.feed.sent ≤ Feed.capacity →
            (later.waiting service.feed.subscribe).notices.head? = some notice := by
  intro after
  obtain ⟨error, drawn, failed⟩ | ⟨_, asked, changed, _, made, ran⟩ :=
    operation.run_made service stamp actor
  · rw [failed] at done
    cases done
  · have does := Operation.change_ok made
    have committed : after = service.committed stamp actor asked changed :=
      congrArg Outcome.service ran
    let notice : Notice :=
      ⟨Service.eventOf stamp actor asked, changed.grants.holdersOf .eventsView asked.target⟩
    have settled : notice.SettledBy changed.grants := fun principal ↦ visibleTo_holdersOf ..
    rw [committed, made]
    refine ⟨notice, rfl, does.toList_committed actor, settled, fun purges ↦ ?_, fun stays ↦ ?_,
      fun steps room ↦ Service.head?_waiting_run rfl steps room⟩
    · rwa [← regrant_of_purges purges service.state.grants, ← does.grants]
    · have kept : asked.purges = false := by
        rw [does.purges]
        exact Bool.eq_false_iff.mpr stays
      rw [Service.committed, Service.recorded, kept]
      exact settled

/-- The deletion of a tag is seen by a user who could view its events before, although the grant has
gone with the tag. -/
theorem run_watched_deletion :
    let root : Principal := ⟨"root", [], true⟩
    let bob : Principal := ⟨"bob", ["staff"], false⟩
    let stamp : Stamp := { ids := fun _ ↦ Uuid.ofNat 1, now := Instant.origin }
    let red : Object := .tag (Uuid.ofNat 1)
    let service := (Service.fresh false).run [
      .perform stamp root (.change (.createTag "red" none)),
      .perform stamp root (.change (.grant ⟨.role "staff", .eventsView, some red⟩))]
    let deletion := (Operation.deleteTag red.id).run service stamp root
    ∃ notice, deletion.service.feed = service.feed.send notice ∧ notice.visibleTo bob ∧
      deletion.service.state.grants.allows bob .eventsView (some red) = false := by
  intro root bob stamp red service deletion
  have done : (service.deleteTag stamp root red.id).result = .ok () := by decide +kernel
  obtain ⟨notice, sent, _, _, before, _⟩ :=
    run_watched (.deleteTag red.id) service stamp root done
  have target : some red = some notice.event.target := by
    have newest : (deletion.service.feed.recent.head?).map (·.event.target) = some red := by
      decide +kernel
    rw [← newest, sent]
    rfl
  refine ⟨notice, sent, ?_, by decide +kernel⟩
  rw [before rfl bob, ← target]
  decide +kernel

end Operation

end Tagging
