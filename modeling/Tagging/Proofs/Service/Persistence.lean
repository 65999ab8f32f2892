import Tagging.Proofs.Service.Lifetime

/-!
# Persistence is transparent

A service with a disk is a service without one, as far as anyone can tell who does not ask for
changes while the disk is out of reach. What it has in memory is what its disk holds, so that a
restart changes nothing; and a change that cannot be saved is as good as never asked for.
-/

namespace Tagging

/-! ### Replies -/

/-- The save at the end of a command fails: its change is approved and made, but the disk is out of
reach. -/
def Service.loses (service : Service) (stamp : Stamp) (principal : Principal) : Command → Bool
  | .ask _ => false
  | .change operation =>
    !service.saves && (operation.approve service.state principal).isOk &&
      (operation.change stamp service.state).1.isOk

/-- A command that was carried out, with its result, and whether its save failed. -/
structure Reply where
  stamp : Stamp
  principal : Principal
  command : Command
  result : Except Error command.Value
  lost : Bool

/-- The turn in which the command of a reply is carried out. -/
def Reply.turn (reply : Reply) : Turn :=
  .step (.perform reply.stamp reply.principal reply.command)

namespace Service

/-- The reply of a service to a command. -/
def reply (service : Service) (stamp : Stamp) (principal : Principal) (command : Command) :
    Reply where
  stamp := stamp
  principal := principal
  command := command
  result := (command.perform service stamp principal).result
  lost := service.loses stamp principal command

/-- The replies that a service gives in some turns. -/
def replies (service : Service) : List Turn → List Reply
  | [] => []
  | .step (.perform stamp principal command) :: turns =>
    service.reply stamp principal command ::
      (service.turn (.step (.perform stamp principal command))).replies turns
  | turn :: turns => (service.turn turn).replies turns

private theorem turn_reply (service : Service) (stamp : Stamp) (principal : Principal)
    (command : Command) :
    (service.reply stamp principal command).turn = .step (.perform stamp principal command) := rfl

private theorem replies_perform (service : Service) (stamp : Stamp) (principal : Principal)
    (command : Command) (turns : List Turn) :
    service.replies (.step (.perform stamp principal command) :: turns) =
      service.reply stamp principal command ::
        (command.perform service stamp principal).service.replies turns := rfl

private theorem live_perform (service : Service) (stamp : Stamp) (principal : Principal)
    (command : Command) (turns : List Turn) :
    service.live (.step (.perform stamp principal command) :: turns) =
      (command.perform service stamp principal).service.live turns := rfl

/-- The disk holds what is in memory. -/
def Saved (service : Service) : Prop :=
  ∃ disk, service.disk = some disk ∧ disk.Holds service.state

/-! ### Single commands -/

section

variable {durable memory : Service} {stamp : Stamp} {principal : Principal} {command : Command}

/-- A command whose save fails is answered by that, and leaves the service as it was. -/
theorem perform_of_loses (lost : durable.loses stamp principal command) :
    (command.perform durable stamp principal).result = .error Disk.outOfReach ∧
      (command.perform durable stamp principal).service = durable := by
  cases command with
  | ask query => cases lost
  | change operation =>
    simp only [loses, Bool.and_eq_true, Bool.not_eq_true'] at lost
    obtain ⟨⟨unsaved, approved⟩, made⟩ := lost
    rw [Command.perform, Operation.run_eq]
    cases approval : operation.approve durable.state principal with
    | error error =>
      rw [approval] at approved
      cases approved
    | ok _ =>
      cases change : operation.change stamp durable.state with
      | mk result changed =>
        cases result with
        | error error =>
          rw [change] at made
          cases made
        | ok yielded =>
          have failed : (durable.commit stamp principal fun state ↦ operation.change stamp state) =
              ⟨.error Disk.outOfReach, durable, yielded.2.drawn + 1⟩ :=
            commit_of_not_saves change unsaved
          exact ⟨congrArg Outcome.result failed, congrArg Outcome.service failed⟩

private theorem run_of_not_loses {operation : Operation} (same : memory.state = durable.state)
    (alone : memory.disk = none)
    (kept : durable.loses stamp principal (.change operation) = false) :
    let left := operation.run memory stamp principal
    let right := operation.run durable stamp principal
    left.result = right.result ∧ left.service.state = right.service.state ∧
      left.service.disk = none := by
  have saves : memory.saves := by rw [Service.saves, alone]; rfl
  simp only [Operation.run_eq, same]
  cases approval : operation.approve durable.state principal with
  | error error => exact ⟨rfl, same, alone⟩
  | ok _ =>
    cases made : operation.change stamp durable.state with
    | mk result changed =>
      cases result with
      | error error =>
        have unchanged : changed = durable.state := by
          have left := Operation.change_error (congrArg Prod.fst made)
          rwa [made] at left
        subst unchanged
        have madeHere : operation.change stamp memory.state = (.error error, memory.state) := by
          rw [same, made]
        have right : (durable.commit stamp principal fun state ↦ operation.change stamp state) =
            ⟨.error error, durable, 0⟩ := commit_of_error made
        have left : (memory.commit stamp principal fun state ↦ operation.change stamp state) =
            ⟨.error error, memory, 0⟩ := commit_of_error madeHere
        rw [left, right]
        exact ⟨rfl, same, alone⟩
      | ok yielded =>
        obtain ⟨value, asked⟩ := yielded
        have madeHere : operation.change stamp memory.state = (.ok (value, asked), changed) := by
          rw [same, made]
        -- The change is made, so that only a failed save could have lost it.
        have saved : durable.saves := by
          simpa [loses, approval, made, Except.isOk, Except.toBool] using kept
        have right : (durable.commit stamp principal fun state ↦ operation.change stamp state) =
            ⟨.ok value, durable.committed stamp principal asked changed, asked.drawn + 1⟩ :=
          commit_of_saves made saved
        have left : (memory.commit stamp principal fun state ↦ operation.change stamp state) =
            ⟨.ok value, memory.committed stamp principal asked changed, asked.drawn + 1⟩ :=
          commit_of_saves madeHere saves
        have none : (memory.committed stamp principal asked changed).disk = none := by
          rw [committed, alone]
          rfl
        rw [left, right]
        exact ⟨rfl, rfl, none⟩

/-- A command whose save does not fail gets the same reply, and leads to the same state, with a disk
as without. -/
theorem perform_of_not_loses (same : memory.state = durable.state) (alone : memory.disk = none)
    (kept : durable.loses stamp principal command = false) :
    memory.reply stamp principal command = durable.reply stamp principal command ∧
      (command.perform memory stamp principal).service.state =
        (command.perform durable stamp principal).service.state ∧
      (command.perform memory stamp principal).service.disk = none := by
  cases command with
  | ask query =>
    refine ⟨?_, same, alone⟩
    simp only [reply, Command.perform, same]
    rfl
  | change operation =>
    obtain ⟨result, state, disk⟩ := run_of_not_loses same alone kept
    have never : memory.loses stamp principal (.change operation) = false := by
      simp [loses, saves, alone]
    refine ⟨?_, state, disk⟩
    simp only [reply, Command.perform, result, kept, never]

/-- What is in memory is on disk after a command if it was before. -/
theorem Saved.perform (saved : durable.Saved) (stamp : Stamp) (principal : Principal)
    (command : Command) : (command.perform durable stamp principal).service.Saved := by
  obtain same | ⟨operation, value, asked, changed, _, _, done⟩ :=
    durable.perform_made stamp principal command
  · rwa [same]
  · obtain ⟨disk, stored, _⟩ := saved
    rw [done]
    have kept : (durable.committed stamp principal asked changed).disk =
        some { disk with
          snapshot := some (durable.committed stamp principal asked changed).state.snapshot } := by
      rw [committed, stored]
      rfl
    exact ⟨_, kept, holds_committed kept⟩

/-- What is in memory is on disk whether the disk is within reach or not. -/
theorem Saved.reach (saved : durable.Saved) (reachable : Bool) :
    (durable.step (.reach reachable)).Saved := by
  obtain ⟨disk, stored, holds⟩ := saved
  refine ⟨{ disk with reachable }, ?_, holds⟩
  rw [step, stored]
  rfl

/-- To open a service again whose disk holds what is in memory brings back the same state. -/
theorem Saved.reopen (saved : durable.Saved) :
    durable.reopen.Saved ∧ durable.reopen.state = durable.state := by
  obtain ⟨disk, stored, holds⟩ := saved
  rw [reopen_of_holds stored holds]
  exact ⟨⟨_, rfl, holds⟩, rfl⟩

end

/-! ### Whole lifetimes -/

/-- A service opened on an empty disk has saved what it has, which is nothing. -/
theorem saved_fresh : (fresh true).Saved :=
  ⟨_, rfl, Disk.holds_empty⟩

/-- Side by side with a service that keeps nothing on disk, and that is spared the commands whose
save fails, a service that has saved its state goes on in the same way. -/
theorem Saved.live {turns : List Turn} (ordinary : ∀ grants, .step (.bootstrap grants) ∉ turns)
    {durable memory : Service} (saved : durable.Saved) (same : memory.state = durable.state)
    (alone : memory.disk = none) :
    let kept := (durable.replies turns).filter (!·.lost)
    (durable.live turns).Saved ∧ memory.replies (kept.map Reply.turn) = kept ∧
      (memory.live (kept.map Reply.turn)).state = (durable.live turns).state := by
  induction turns generalizing durable memory with
  | nil => exact ⟨saved, rfl, same⟩
  | cons turn turns ih =>
    have later : ∀ grants, .step (.bootstrap grants) ∉ turns := fun grants member ↦
      ordinary grants (List.mem_cons_of_mem _ member)
    cases turn with
    | step step =>
      cases step with
      | perform stamp principal command =>
        have next := saved.perform stamp principal command
        rw [replies_perform, live_perform]
        cases lost : durable.loses stamp principal command with
        | true =>
          -- The reply is left out, and the service without a disk stands still as well.
          have left : (durable.reply stamp principal command).lost = true := lost
          rw [(perform_of_loses lost).2] at next ⊢
          rw [List.filter_cons_of_neg (by simp [left])]
          exact ih later next same alone
        | false =>
          have left : (durable.reply stamp principal command).lost = false := lost
          obtain ⟨reply, state, disk⟩ := perform_of_not_loses same alone lost
          obtain ⟨holds, replies, lives⟩ := ih later next state disk
          rw [List.filter_cons_of_pos (by simp [left])]
          dsimp only
          rw [List.map_cons, turn_reply, replies_perform, live_perform, reply, replies]
          exact ⟨holds, rfl, lives⟩
      | bootstrap grants => exact absurd List.mem_cons_self (ordinary grants)
      | reach reachable => exact ih later (saved.reach reachable) same alone
    | restart =>
      obtain ⟨again, state⟩ := saved.reopen
      exact ih later again (same.trans state.symm) alone

/-- A service that is opened on an empty disk is restarted at will, and the disk gets out of reach
at will, but no grants are installed. After each turn the disk holds what is in memory. A service
without a disk that carries out the same commands but those whose save fails gives the same replies,
and comes to the same state. -/
theorem live_transparent (turns : List Turn)
    (ordinary : ∀ grants, .step (.bootstrap grants) ∉ turns) :
    let durable := fresh true
    let memory := fresh false
    let kept := (durable.replies turns).filter (!·.lost)
    (∀ n, (durable.live (turns.take n)).Saved) ∧
      memory.replies (kept.map Reply.turn) = kept ∧
      (memory.live (kept.map Reply.turn)).state = (durable.live turns).state := by
  intro durable memory kept
  have same : memory.state = durable.state := rfl
  obtain ⟨_, replies, state⟩ := saved_fresh.live ordinary same rfl
  refine ⟨fun n ↦ ?_, replies, state⟩
  have earlier : ∀ grants, .step (.bootstrap grants) ∉ turns.take n := fun grants member ↦
    ordinary grants (List.mem_of_mem_take member)
  exact (saved_fresh.live earlier same rfl).1

/-- While the disk is out of reach a tag is lost, but not the document from before, which is there
after a restart. -/
theorem live_transparent_outage :
    let root : Principal := ⟨"root", [], true⟩
    let perform := fun n command ↦
      Turn.step (.perform { ids := fun _ ↦ Uuid.ofNat n, now := Instant.origin } root command)
    let turns := [perform 1 (.change (.createDocument "Plans")), .step (.reach false),
      perform 2 (.change (.createTag "red" none)), .step (.reach true), perform 3 (.ask .listTags),
      .restart]
    let replies := (fresh true).replies turns
    let kept := replies.filter (!·.lost)
    replies.map (·.lost) = [false, true, false] ∧
      ((fresh true).live turns).Saved ∧
      (fresh false).replies (kept.map Reply.turn) = kept ∧
      ((fresh true).live turns).state.has (.document (Uuid.ofNat 1)) := by
  intro root perform turns replies kept
  have ordinary : ∀ grants, .step (.bootstrap grants) ∉ turns := by
    intro grants member
    simp [turns, perform] at member
  obtain ⟨saved, same, state⟩ := live_transparent turns ordinary
  have there : ((fresh false).live (kept.map Reply.turn)).state.has (.document (Uuid.ofNat 1)) := by
    decide +kernel
  exact ⟨by decide +kernel, saved 6, same, state ▸ there⟩

end Service

end Tagging
