import Vmr.Xgq.Server
import Mathlib.Data.List.Count

/-!
# Command and completion accounting

Every command the receive task takes is, at any time, in exactly one task or
queue or completed exactly once.  Completions are posted one after another
under the mutex, so the `k`-th completion is in the `k`-th granted slot.  This
holds as long as `xgq_produce` is only called with room in the completion
ring; `cl_msg_handle_complete` does not check that.
-/

namespace Vmr.Xgq

open Vmr.Lib

namespace Control

def commands : Control → List Nat
  | .consumed command => [command]
  | .sending held _ | .scSending held | .running held => [held.command]
  | .locking held _ | .granted held _ _ _ => [held.command]
  | .idle | .scWaiting | .filled _ | .after | .done => []

def messages : Control → List Held
  | .sending held _ | .scSending held | .running held => [held]
  | .locking held _ | .granted held _ _ _ => [held]
  | .idle | .consumed _ | .scWaiting | .filled _ | .after | .done => []

def inside : Control → Bool
  | .granted _ _ _ _ | .filled _ => true
  | _ => false

end Control

@[simp] theorem Control.commands_idle : Control.idle.commands = [] := rfl

@[simp] theorem Next.control_commands (next : Next) : next.control.commands = [] := by
  cases next <;> rfl

@[simp] theorem Next.control_messages (next : Next) : next.control.messages = [] := by
  cases next <;> rfl

@[simp] theorem Next.control_inside (next : Next) : next.control.inside = false := by
  cases next <;> rfl

namespace Server

variable (server : Server)

def queued : List Held :=
  server.programQueue ++ server.opcodeQueue ++ server.scReqQueue ++
    server.scTask.toList ++ server.scRespQueue

/-- The commands that are taken and not completed, wherever they are. -/
def inFlight : List Nat :=
  (server.control .receive).commands ++ (server.control .program).commands ++
    (server.control .opcode).commands ++ server.queued.map Held.command

def messages : List Held :=
  (server.control .receive).messages ++ (server.control .program).messages ++
    (server.control .opcode).messages ++ server.queued

def places (command : Nat) : Nat :=
  server.inFlight.count command + (server.completed.map Prod.fst).count command

variable {server}

private theorem control_setControl (task other : Task) (control : Control) :
    (server.setControl task control).control other =
      if other = task then control else server.control other := by
  simp [setControl, Function.update_apply]

private theorem places_setControl (server : Server) (task : Task) (control : Control)
    (command : Nat) :
    (server.setControl task control).places command +
        (server.control task).commands.count command =
      server.places command + control.commands.count command := by
  cases task <;>
    simp [places, inFlight, queued, setControl, List.count_append] <;>
    omega

private theorem places_posted (server : Server) (rings : RingPair) (done : Nat) (slot : Option Nat)
    (command : Nat) :
    places { server with rings, completed := server.completed ++ [(done, slot)] } command =
      server.places command + [done].count command := by
  rw [places, List.map_append, List.count_append, ← Nat.add_assoc]
  rfl

private theorem mem_messages_setControl {task : Task} {control : Control} {held : Held}
    (h : held ∈ (server.setControl task control).messages) :
    held ∈ control.messages ∨ held ∈ server.messages := by
  cases task <;>
    simp only [messages, queued, setControl, List.mem_append, Function.update_apply] at h ⊢ <;>
    grind

end Server

/-! ## The invariant -/

def Traced (messages : List Held) (got : Nat → Option Entry) : Prop :=
  ∀ held ∈ messages, ∃ cmd, got held.command = some cmd ∧ held.msg.cid = sqCid cmd

/-- The submission slot the receive task works on. -/
structure ReceiveInv (control : Control) (sq : Channel) : Prop where
  returned : control = .idle → sq.released = sq.taken
  working : control ≠ .idle → sq.released + 1 = sq.taken
  fresh : ∀ command, control = .consumed command →
    command + 1 = sq.taken ∧ sq.got command = none

/-- One task at a time posts completions, each into the next slot. -/
structure LockInv (control : Task → Control) (lock : Option Task) (cq : Channel)
    (completed : List (Nat × Option Nat)) (got : Nat → Option Entry) : Prop where
  inside_iff : ∀ task, (control task).inside = true ↔ lock = some task
  free : lock = none → cq.granted = completed.length ∧ cq.published = completed.length
  granted : ∀ task held slot addr next, control task = .granted held slot addr next →
    slot = some completed.length ∧ addr = cq.grantAddr completed.length ∧
      cq.granted = completed.length + 1 ∧ cq.published = completed.length
  filled : ∀ task next, control task = .filled next →
    cq.granted = completed.length ∧ cq.published + 1 = completed.length
  posted : ∀ k command slot, completed[k]? = some (command, slot) →
    slot = some k ∧ ∃ entry cmd, cq.filled k = some entry ∧ got command = some cmd ∧
      cqCid entry = sqCid cmd

def Control.waiting : Control → Nat
  | .scWaiting => 1
  | _ => 0

/-- At most one message is with the SC task, and the program task waits for it. -/
def ScInv (program : Control) (scReqQueue : List Held) (scTask : Option Held)
    (scRespQueue : List Held) : Prop :=
  scReqQueue.length + scTask.toList.length + scRespQueue.length = program.waiting

def Next.belongs : Task → Next → Bool
  | .receive, next => next == .done
  | _, next => next != .done

def Control.belongs : Task → Control → Bool
  | _, .idle => true
  | .receive, .consumed _ | .receive, .sending _ _ | .receive, .done => true
  | .program, .scSending _ | .program, .scWaiting => true
  | .program, .running _ | .opcode, .running _ => true
  | .program, .after | .opcode, .after => true
  | task, .locking _ next | task, .granted _ _ _ next | task, .filled next =>
      next.belongs task
  | _, _ => false

structure Handles (task : Task) (held : Held) (next : Control) : Prop where
  commands_eq : next.commands = [held.command]
  messages : ∀ other ∈ next.messages,
    other.command = held.command ∧ other.msg.cid = held.msg.cid
  inside_eq : next.inside = false
  waiting_eq : next.waiting = 0
  belongs_eq : next.belongs task = true

theorem Handles.locking (task : Task) (held : Held) (rcode : UInt32) {next : Next}
    (h : next.belongs task = true) :
    Handles task held (.locking (held.withRcode rcode) next) :=
  ⟨rfl, by simp [Control.messages, Held.withRcode], rfl, rfl, by cases task <;> exact h⟩

private theorem processProgramMsg_handles (held : Held) :
    Handles .program held (processProgramMsg held) := by
  unfold processProgramMsg
  split
  · split
    · exact .locking _ _ _ rfl
    · exact ⟨rfl, by simp [Control.messages], rfl, rfl, rfl⟩
    · exact ⟨rfl, by simp [Control.messages], rfl, rfl, rfl⟩
  · exact .locking _ _ _ rfl

private theorem processOpcodeMsg_handles (held : Held) :
    Handles .opcode held (processOpcodeMsg held) := by
  unfold processOpcodeMsg
  split
  · split
    · exact .locking _ _ _ rfl
    · exact ⟨rfl, by simp [Control.messages], rfl, rfl, rfl⟩
  · exact .locking _ _ _ rfl

structure Server.Inv (sqBase cqBase : UInt32) (server : Server) : Prop where
  counted : server.rings.Counted rpuXgq sqBase cqBase
  contents : server.rings.Contents rpuXgq sqBase cqBase
  once : ∀ command, server.places command =
    if command < server.rings.sq.taken then 1 else 0
  traced : Traced server.messages server.rings.sq.got
  receive : ReceiveInv (server.control .receive) server.rings.sq
  lock : LockInv server.control server.lock server.rings.cq server.completed
    server.rings.sq.got
  sc : ScInv (server.control .program) server.scReqQueue server.scTask
    server.scRespQueue
  shape : ∀ task, (server.control task).belongs task = true

/-- The completion ring has a slot that the host is done with. -/
def Server.CqHasRoom (server : Server) : Prop :=
  server.rings.cq.granted < server.rings.cq.released + rpuXgq.cq.slotNum.toNat

instance (server : Server) : Decidable server.CqHasRoom :=
  inferInstanceAs (Decidable (_ < _))

def ServerAction.meetsRoom (server : Server) : ServerAction → Prop
  | .produce _ _ => server.CqHasRoom
  | _ => True

theorem LockInv.setControl {control : Task → Control} {lock : Option Task}
    {cq : Channel} {completed : List (Nat × Option Nat)} {got : Nat → Option Entry}
    (h : LockInv control lock cq completed got) (task : Task) (next : Control)
    (hbefore : (control task).inside = false) (hafter : next.inside = false) :
    LockInv (Function.update control task next) lock cq completed got := by
  refine ⟨?_, h.free, ?_, ?_, h.posted⟩
  · intro other
    by_cases heq : other = task
    · subst heq
      rw [Function.update_self, hafter, ← h.inside_iff, hbefore]
    · rw [Function.update_of_ne heq, h.inside_iff]
  · intro other held slot addr following hother
    by_cases heq : other = task
    · subst heq
      rw [Function.update_self] at hother
      simp [hother, Control.inside] at hafter
    · rw [Function.update_of_ne heq] at hother
      exact h.granted other held slot addr following hother
  · intro other following hother
    by_cases heq : other = task
    · subst heq
      rw [Function.update_self] at hother
      simp [hother, Control.inside] at hafter
    · rw [Function.update_of_ne heq] at hother
      exact h.filled other following hother

theorem LockInv.outside {control : Task → Control} {lock : Option Task}
    {cq : Channel} {completed : List (Nat × Option Nat)} {got : Nat → Option Entry}
    (h : LockInv control lock cq completed got) {task : Task} (hlock : lock ≠ some task) :
    (control task).inside = false := by
  rw [← Bool.not_eq_true, h.inside_iff]
  exact hlock

theorem LockInv.update {control : Task → Control} {lock : Option Task}
    {cq : Channel} {completed : List (Nat × Option Nat)} {got : Nat → Option Entry}
    {task : Task} {next : Control}
    (hothers : ∀ other, other ≠ task → (control other).inside = false)
    (hinside : next.inside = true ↔ lock = some task)
    (hlock : ∀ other, lock = some other → other = task)
    (hfree : lock = none → cq.granted = completed.length ∧ cq.published = completed.length)
    (hgranted : ∀ held slot addr following, next = .granted held slot addr following →
      slot = some completed.length ∧ addr = cq.grantAddr completed.length ∧
        cq.granted = completed.length + 1 ∧ cq.published = completed.length)
    (hfilled : ∀ following, next = .filled following →
      cq.granted = completed.length ∧ cq.published + 1 = completed.length)
    (hposted : ∀ k command slot, completed[k]? = some (command, slot) →
      slot = some k ∧ ∃ entry cmd, cq.filled k = some entry ∧ got command = some cmd ∧
        cqCid entry = sqCid cmd) :
    LockInv (Function.update control task next) lock cq completed got := by
  refine ⟨?_, hfree, ?_, ?_, hposted⟩
  · intro other
    by_cases heq : other = task
    · subst heq
      rw [Function.update_self]
      exact hinside
    · rw [Function.update_of_ne heq, hothers other heq]
      exact iff_of_false Bool.false_ne_true fun hother => heq (hlock other hother)
  · intro other held slot addr following hother
    by_cases heq : other = task
    · subst heq
      rw [Function.update_self] at hother
      exact hgranted held slot addr following hother
    · have hout := hothers other heq
      rw [Function.update_of_ne heq] at hother
      simp [hother, Control.inside] at hout
  · intro other following hother
    by_cases heq : other = task
    · subst heq
      rw [Function.update_self] at hother
      exact hfilled following hother
    · have hout := hothers other heq
      rw [Function.update_of_ne heq] at hother
      simp [hother, Control.inside] at hout

private theorem LockInv.posted_append {control : Task → Control} {lock : Option Task}
    {cq : Channel} {completed : List (Nat × Option Nat)} {got : Nat → Option Entry}
    (h : LockInv control lock cq completed got) {done : Nat} {entry cmd : Entry}
    (hgot : got done = some cmd) (hcid : cqCid entry = sqCid cmd) (k command : Nat)
    (slot : Option Nat)
    (hk : (completed ++ [(done, some completed.length)])[k]? = some (command, slot)) :
    slot = some k ∧ ∃ entry' cmd',
      Function.update cq.filled completed.length (some entry) k = some entry' ∧
        got command = some cmd' ∧ cqCid entry' = sqCid cmd' := by
  rcases Nat.lt_trichotomy k completed.length with hlt | rfl | hgt
  · rw [List.getElem?_append_left hlt] at hk
    obtain ⟨hslot, entry', cmd', hfilled, hcmd', hcid'⟩ := h.posted k command slot hk
    refine ⟨hslot, entry', cmd', ?_, hcmd', hcid'⟩
    rw [Function.update_of_ne (Nat.ne_of_lt hlt)]
    exact hfilled
  · rw [List.getElem?_append_right (Nat.le_refl _), Nat.sub_self] at hk
    cases hk
    exact ⟨rfl, entry, cmd, Function.update_self .., hgot, hcid⟩
  · rw [List.getElem?_eq_none (by rw [List.length_append]; exact hgt)] at hk
    cases hk

theorem Traced.mono {messages : List Held} {got got' : Nat → Option Entry}
    (h : Traced messages got)
    (hgot : ∀ i entry, got i = some entry → got' i = some entry) :
    Traced messages got' := by
  intro held hheld
  obtain ⟨cmd, hcmd, hcid⟩ := h held hheld
  exact ⟨cmd, hgot _ _ hcmd, hcid⟩

theorem LockInv.mono {control : Task → Control} {lock : Option Task}
    {cq : Channel} {completed : List (Nat × Option Nat)} {got got' : Nat → Option Entry}
    (h : LockInv control lock cq completed got)
    (hgot : ∀ i entry, got i = some entry → got' i = some entry) :
    LockInv control lock cq completed got' := by
  refine { h with posted := ?_ }
  intro k command slot hk
  obtain ⟨hslot, entry, cmd, hfilled, hcmd, hcid⟩ := h.posted k command slot hk
  exact ⟨hslot, entry, cmd, hfilled, hgot _ _ hcmd, hcid⟩

private theorem ReceiveInv.of_working {control : Control} {sq : Channel}
    (hworking : sq.released + 1 = sq.taken) (hidle : control ≠ .idle)
    (hconsumed : ∀ command, control ≠ .consumed command) : ReceiveInv control sq where
  returned heq := (hidle heq).elim
  working _ := hworking
  fresh command heq := (hconsumed command heq).elim

/-! ## Steps of the tasks -/

namespace Server

variable {server server' : Server} {sqBase cqBase : UInt32}

theorem Inv.init (memory : Memory) :
    (Server.init (.init rpuXgq memory sqBase cqBase)).Inv sqBase cqBase where
  counted := ⟨.init, .init⟩
  contents := ⟨.init _, .init _⟩
  once command := rfl
  traced held hheld := by cases hheld
  receive := ⟨fun _ => rfl, fun h => (h rfl).elim, fun _ h => by cases h⟩
  lock := by
    constructor <;>
      simp [Server.init, RingPair.init, Channel.init, Control.inside]
  sc := rfl
  shape task := by cases task <;> rfl

theorem Inv.advance (h : server.Inv sqBase cqBase) {rings : RingPair} {task : Task}
    {next : Control}
    (hcounted : rings.Counted rpuXgq sqBase cqBase)
    (hcontents : rings.Contents rpuXgq sqBase cqBase)
    (htaken : rings.sq.taken = server.rings.sq.taken)
    (hgot : ∀ i entry, server.rings.sq.got i = some entry →
      rings.sq.got i = some entry)
    (hcq : rings.cq = server.rings.cq)
    (hcommands : next.commands = (server.control task).commands)
    (htraced : Traced next.messages rings.sq.got)
    (hbefore : (server.control task).inside = false) (hafter : next.inside = false)
    (hreceive : ReceiveInv
      (if .receive = task then next else server.control .receive) rings.sq)
    (hsc : task = .program → next.waiting = (server.control .program).waiting)
    (hshape : next.belongs task = true) :
    ({ server with rings }.setControl task next).Inv sqBase cqBase where
  counted := hcounted
  contents := hcontents
  once command := by
    have hmove := places_setControl { server with rings } task next command
    rw [hcommands] at hmove
    rw [show (setControl { server with rings } task next).rings = rings from rfl,
      htaken, ← h.once command]
    exact Nat.add_right_cancel hmove
  traced held hheld := by
    rcases mem_messages_setControl hheld with hnew | hold
    · exact htraced held hnew
    · exact h.traced.mono hgot held hold
  receive := by
    rw [control_setControl]
    exact hreceive
  lock := by
    have hlock := (h.lock.mono hgot).setControl task next hbefore hafter
    rw [← hcq] at hlock
    exact hlock
  sc := by
    rw [control_setControl]
    split
    · rename_i heq
      exact (h.sc : _ = _).trans (hsc heq.symm).symm
    · exact h.sc
  shape other := by
    rw [control_setControl]
    split
    · rename_i heq
      rw [heq]
      exact hshape
    · exact h.shape other

theorem Inv.setControl (h : server.Inv sqBase cqBase) {task : Task} {next : Control}
    (hcommands : next.commands = (server.control task).commands)
    (htraced : Traced next.messages server.rings.sq.got)
    (hbefore : (server.control task).inside = false) (hafter : next.inside = false)
    (hreceive : ReceiveInv
      (if .receive = task then next else server.control .receive) server.rings.sq)
    (hsc : task = .program → next.waiting = (server.control .program).waiting)
    (hshape : next.belongs task = true) :
    (server.setControl task next).Inv sqBase cqBase :=
  h.advance h.counted h.contents rfl (fun _ _ hgot => hgot) rfl hcommands htraced hbefore
    hafter hreceive hsc hshape

private theorem Inv.messages_of_control (h : server.Inv sqBase cqBase) (task : Task)
    (held : Held) (hheld : held ∈ (server.control task).messages) :
    ∃ cmd, server.rings.sq.got held.command = some cmd ∧ held.msg.cid = sqCid cmd := by
  refine h.traced held ?_
  cases task <;> simp [messages, hheld]

theorem Inv.submit (h : server.Inv sqBase cqBase)
    (hstep : server.submit = some server') : server'.Inv sqBase cqBase := by
  unfold Server.submit at hstep
  split at hstep
  · rename_i command hcontrol
    obtain ⟨htaken, hnone⟩ := h.receive.fresh command hcontrol
    have hworking := h.receive.working (by rw [hcontrol]; exact Control.noConfusion)
    cases hread : server.rings.apply (.sq (.read command)) with
    | none => simp [hread] at hstep
    | some rings =>
        obtain ⟨hring, hcq⟩ := RingPair.apply_sq hread
        have hcounted := xgqSystem_counted.step _ _ _ h.counted hread
        have hcontents := (xgqSystem_contents (by decide) (by decide)).step _ _ _
          ⟨h.counted, h.contents⟩ hread
        have hrange : server.rings.sq.released ≤ command ∧
            command < server.rings.sq.taken := by omega
        obtain ⟨cmd, hsq⟩ : ∃ cmd, rings.sq = { server.rings.sq with
            got := Function.update server.rings.sq.got command (some cmd) } := by
          simp only [Channel.apply, hrange, and_self, if_true, Option.some.injEq,
            Prod.mk.injEq] at hring
          exact ⟨_, hring.2.symm⟩
        have hcmd : rings.sq.got command = some cmd := by simp [hsq]
        have hgot : ∀ i entry, server.rings.sq.got i = some entry →
            rings.sq.got i = some entry := by
          intro i entry hi
          have hne : i ≠ command := by
            rintro rfl
            simp [hnone] at hi
          simp [hsq, hne, hi]
        have hreceive : ∀ next : Control, next ≠ .idle →
            (∀ other, next ≠ .consumed other) → ReceiveInv next rings.sq := by
          exact fun next => .of_working (by simpa [hsq] using hworking)
        simp only [hread, Option.bind_eq_bind, Option.bind_some, hcmd] at hstep
        split at hstep
        · rename_i msg qid hsubmit
          cases hstep
          refine h.advance hcounted hcontents.2 (by simp [hsq]) hgot hcq ?_ ?_ ?_ rfl ?_
            (by simp) rfl
          · rw [hcontrol]
            rfl
          · intro held hheld
            obtain rfl : held = ⟨command, msg⟩ := by simpa [Control.messages] using hheld
            exact ⟨cmd, hcmd, submitToQueue_cid hsubmit⟩
          · rw [hcontrol]
            rfl
          · exact hreceive _ (by simp) (by simp)
        · cases hstep
          refine h.advance hcounted hcontents.2 (by simp [hsq]) hgot hcq ?_ ?_ ?_ rfl ?_
            (by simp) rfl
          · rw [hcontrol]
            rfl
          · intro held hheld
            obtain rfl : held = ⟨command, abortMsg cmd⟩ := by
              simpa [Control.messages] using hheld
            exact ⟨cmd, hcmd, rfl⟩
          · rw [hcontrol]
            rfl
          · exact hreceive _ (by simp) (by simp)
  · contradiction

theorem Inv.sendTimeout (h : server.Inv sqBase cqBase)
    (hstep : server.sendTimeout = some server') : server'.Inv sqBase cqBase := by
  unfold Server.sendTimeout at hstep
  split at hstep
  · rename_i held qid hcontrol
    split at hstep
    · obtain ⟨cmd, hcmd, -⟩ := h.messages_of_control .receive held
        (by simp [hcontrol, Control.messages])
      have hworking := h.receive.working (by rw [hcontrol]; exact Control.noConfusion)
      simp only [hcmd, Option.bind_eq_bind, Option.bind_some] at hstep
      cases hstep
      refine h.setControl ?_ ?_ ?_ rfl ?_ (by simp) rfl
      · rw [hcontrol]
        rfl
      · intro other hother
        obtain rfl : other = ⟨held.command, abortMsg cmd⟩ := by
          simpa [Control.messages] using hother
        exact ⟨cmd, hcmd, rfl⟩
      · rw [hcontrol]
        rfl
      · rw [if_pos rfl]
        exact .of_working hworking (by simp) (by simp)
    · contradiction
  · contradiction

theorem Inv.consume (h : server.Inv sqBase cqBase)
    (hstep : server.consume = some server') : server'.Inv sqBase cqBase := by
  unfold Server.consume at hstep
  split at hstep
  · rename_i hcontrol
    have hreturned := h.receive.returned hcontrol
    have hpair : server.rings.apply (.sq .consume) =
        some { server.rings with sq := server.rings.sq.consume } := rfl
    have hcounted := xgqSystem_counted.step _ _ _ h.counted hpair
    have hcontents := ((xgqSystem_contents (by decide) (by decide)).step _ _ _
      ⟨h.counted, h.contents⟩ hpair).2
    obtain ⟨_, _, hcounts⟩ := h.counted.1
    rcases Nat.lt_or_eq_of_le hcounts.taken_bound.1 with hsome | hempty
    · obtain ⟨_, _, _, hcall⟩ := hcounts.xgqConsume_some hsome
      obtain ⟨ring, heq, -⟩ := h.counted.1.consume_some hsome
      simp only [hcall] at hstep
      cases hstep
      refine ⟨hcounted, hcontents, ?_, ?_, ?_, ?_, ?_, ?_⟩
      · intro command
        have hmove := places_setControl (server.setSq server.rings.sq.consume) .receive
          (.consumed server.rings.sq.taken) command
        have hplaces : (server.setSq server.rings.sq.consume).places command =
            server.places command := rfl
        have honce := h.once command
        have hbefore : ((server.setSq server.rings.sq.consume).control
            .receive).commands = [] := by
          rw [show (server.setSq server.rings.sq.consume).control = server.control from rfl,
            hcontrol]
          rfl
        rw [hbefore, hplaces, honce] at hmove
        simp only [Control.commands, List.count_singleton, List.count_nil, beq_iff_eq] at hmove
        simp only [Server.setControl, Server.setSq, heq] at hmove ⊢
        split at hmove <;> split at hmove <;> split <;> omega
      · intro held hheld
        rcases mem_messages_setControl hheld with hnew | hold
        · cases hnew
        · have := h.traced held hold
          simpa [Server.setControl, Server.setSq, heq] using this
      · rw [control_setControl, if_pos rfl]
        refine ⟨fun hidle => (by cases hidle), fun _ => ?_, fun command hcommand => ?_⟩
        · simp [Server.setControl, Server.setSq, heq, hreturned]
        · obtain rfl : server.rings.sq.taken = command := by simpa using hcommand
          refine ⟨by simp [Server.setControl, Server.setSq, heq], ?_⟩
          simp only [Server.setControl, Server.setSq, heq]
          cases hgot : server.rings.sq.got server.rings.sq.taken with
          | none => rfl
          | some entry => exact absurd (h.contents.1.got_lt _ _ hgot) (Nat.lt_irrefl _)
      · have hlock := h.lock.setControl .receive (.consumed server.rings.sq.taken)
          (by rw [hcontrol]; rfl) rfl
        simpa [Server.setControl, Server.setSq, heq] using hlock
      · exact h.sc
      · intro task
        rw [control_setControl]
        split
        · rename_i htask
          rw [htask]
          rfl
        · exact h.shape task
    · obtain ⟨ring, heq, -⟩ := h.counted.1.consume_empty hempty.symm
      simp only [hcounts.xgqConsume_empty hempty.symm] at hstep
      cases hstep
      have hsq : (server.setSq server.rings.sq.consume).rings.sq =
          { server.rings.sq with consumer := ring } := heq
      refine ⟨hcounted, hcontents, ?_, ?_, ?_, ?_, h.sc, h.shape⟩ <;> rw [hsq]
      · exact h.once
      · exact h.traced
      · exact ⟨h.receive.returned, h.receive.working, h.receive.fresh⟩
      · exact h.lock
  · contradiction

theorem Inv.notifyConsumed (h : server.Inv sqBase cqBase)
    (hstep : server.notifyConsumed = some server') : server'.Inv sqBase cqBase := by
  unfold Server.notifyConsumed at hstep
  split at hstep
  · rename_i hcontrol
    cases hstep
    have hpair : server.rings.apply (.sq .notifyConsumed) =
        some { server.rings with sq := server.rings.sq.notifyConsumed } := rfl
    have hcounted := xgqSystem_counted.step _ _ _ h.counted hpair
    have hcontents := (xgqSystem_contents (by decide) (by decide)).step _ _ _
      ⟨h.counted, h.contents⟩ hpair
    refine h.advance hcounted hcontents.2 rfl (fun _ _ hgot => hgot) rfl ?_
      (fun _ hheld => by cases hheld) ?_ rfl ?_ (by simp) rfl
    · rw [hcontrol]
      rfl
    · rw [hcontrol]
      rfl
    · rw [if_pos rfl]
      exact ⟨fun _ => rfl, fun hne => (hne rfl).elim, fun _ heq => by cases heq⟩
  · contradiction

theorem Inv.scSendTimeout (h : server.Inv sqBase cqBase)
    (hstep : server.scSendTimeout = some server') : server'.Inv sqBase cqBase := by
  unfold Server.scSendTimeout at hstep
  split at hstep
  · rename_i held hcontrol
    split at hstep
    · cases hstep
      obtain ⟨cmd, hcmd, hcid⟩ := h.messages_of_control .program held
        (by simp [hcontrol, Control.messages])
      refine h.setControl ?_ ?_ ?_ rfl h.receive ?_ rfl
      · rw [hcontrol]
        rfl
      · intro other hother
        obtain rfl : other = held.withRcode rcodeEio := by
          simpa [Control.messages] using hother
        exact ⟨cmd, hcmd, hcid⟩
      · rw [hcontrol]
        rfl
      · simp [hcontrol, Control.waiting]
    · contradiction
  · contradiction

theorem Inv.finish (h : server.Inv sqBase cqBase) {task : Task} {rcode : UInt32}
    (hstep : server.finish task rcode = some server') : server'.Inv sqBase cqBase := by
  unfold Server.finish at hstep
  split at hstep
  · rename_i held hcontrol
    cases hstep
    have hshape := h.shape task
    rw [hcontrol] at hshape
    obtain ⟨cmd, hcmd, hcid⟩ := h.messages_of_control task held
      (by simp [hcontrol, Control.messages])
    refine h.setControl ?_ ?_ ?_ rfl ?_ ?_ ?_
    · rw [hcontrol]
      rfl
    · intro other hother
      obtain rfl : other = held.withRcode rcode := by
        simpa [Control.messages] using hother
      exact ⟨cmd, hcmd, hcid⟩
    · rw [hcontrol]
      rfl
    · cases task with
      | receive => simp [Control.belongs] at hshape
      | program => exact h.receive
      | opcode => exact h.receive
    · rintro rfl
      rw [hcontrol]
      rfl
    · cases task with
      | receive => simp [Control.belongs] at hshape
      | program => rfl
      | opcode => rfl
  · contradiction

theorem Inv.finishAfter (h : server.Inv sqBase cqBase) {task : Task}
    (hstep : server.finishAfter task = some server') : server'.Inv sqBase cqBase := by
  unfold Server.finishAfter at hstep
  split at hstep
  · rename_i hcontrol
    cases hstep
    have hshape := h.shape task
    rw [hcontrol] at hshape
    refine h.setControl ?_ (fun _ hheld => by cases hheld) ?_ rfl ?_ ?_ ?_
    · rw [hcontrol]
      rfl
    · rw [hcontrol]
      rfl
    · cases task with
      | receive => simp [Control.belongs] at hshape
      | program => exact h.receive
      | opcode => exact h.receive
    · rintro rfl
      rw [hcontrol]
      rfl
    · cases task <;> rfl
  · contradiction

/-! ## Steps through the queues -/

theorem Inv.transfer (h : server.Inv sqBase cqBase) {task : Task} {next : Control}
    {queued : Server} (hrings : queued.rings = server.rings)
    (hcontrol : queued.control = server.control) (hlock : queued.lock = server.lock)
    (hcompleted : queued.completed = server.completed)
    (hplaces : ∀ command, (queued.setControl task next).places command =
      server.places command)
    (htraced : Traced (queued.setControl task next).messages server.rings.sq.got)
    (hbefore : (server.control task).inside = false) (hafter : next.inside = false)
    (hreceive : ReceiveInv
      (if .receive = task then next else server.control .receive) server.rings.sq)
    (hsc : ScInv (if .program = task then next else server.control .program)
      queued.scReqQueue queued.scTask queued.scRespQueue)
    (hshape : next.belongs task = true) :
    (queued.setControl task next).Inv sqBase cqBase := by
  have hrings' : (queued.setControl task next).rings = server.rings := hrings
  refine ⟨?_, ?_, ?_, ?_, ?_, ?_, ?_, ?_⟩
  · rw [hrings']
    exact h.counted
  · rw [hrings']
    exact h.contents
  · intro command
    rw [hrings', hplaces, h.once]
  · rw [hrings']
    exact htraced
  · rw [hrings', control_setControl, hcontrol]
    exact hreceive
  · rw [hrings']
    change LockInv (Function.update queued.control task next) queued.lock _
      queued.completed _
    rw [hcontrol, hlock, hcompleted]
    exact h.lock.setControl task next hbefore hafter
  · rw [control_setControl, hcontrol]
    exact hsc
  · intro other
    rw [control_setControl, hcontrol]
    split
    · rename_i heq
      rw [heq]
      exact hshape
    · exact h.shape other

theorem Inv.send (h : server.Inv sqBase cqBase)
    (hstep : server.send = some server') : server'.Inv sqBase cqBase := by
  unfold Server.send at hstep
  split at hstep
  · rename_i held qid hcontrol
    split at hstep
    · cases hstep
      have hworking := h.receive.working (by rw [hcontrol]; exact Control.noConfusion)
      have htraced := h.traced
      have hold : held ∈ server.messages := by
        simp [messages, hcontrol, Control.messages]
      refine h.transfer ?_ ?_ ?_ ?_ ?_ ?_ ?_ rfl ?_ ?_ rfl
      · cases qid <;> rfl
      · cases qid <;> rfl
      · cases qid <;> rfl
      · cases qid <;> rfl
      · intro command
        cases qid <;>
          simp [places, inFlight, Server.queued, Server.setControl, push, hcontrol,
            Control.commands, List.count_append, List.count_cons] <;>
          omega
      · intro other hother
        rcases mem_messages_setControl hother with hnew | hother
        · cases hnew
        · refine htraced other ?_
          have hmem : other ∈ server.messages ∨ other = held := by
            cases qid <;>
              simp only [messages, Server.queued, push, List.mem_append,
                List.mem_singleton] at hother ⊢ <;>
              grind
          rcases hmem with hmem | rfl
          · exact hmem
          · exact hold
      · rw [hcontrol]
        rfl
      · rw [if_pos rfl]
        exact .of_working hworking (by simp) (by simp)
      · have hsc := h.sc
        cases qid <;> exact hsc
    · contradiction
  · contradiction

private theorem Inv.traced_handles (h : server.Inv sqBase cqBase) {task : Task} {held : Held}
    {next : Control} {rest : Server} (hhandles : Handles task held next)
    (hheld : held ∈ server.messages) (hrest : ∀ other ∈ rest.messages, other ∈ server.messages) :
    Traced (rest.setControl task next).messages server.rings.sq.got := by
  intro other hother
  rcases mem_messages_setControl hother with hnew | hother
  · obtain ⟨hcommand, hcid⟩ := hhandles.messages other hnew
    rw [hcommand, hcid]
    exact h.traced held hheld
  · exact h.traced other (hrest other hother)

theorem Inv.recv (h : server.Inv sqBase cqBase) {task : Task}
    (hstep : server.recv task = some server') : server'.Inv sqBase cqBase := by
  cases task with
  | receive => contradiction
  | program =>
      simp only [Server.recv] at hstep
      split at hstep
      · rename_i held rest hcontrol hqueue
        cases hstep
        have hhandles := processProgramMsg_handles held
        refine h.transfer rfl rfl rfl rfl ?_ ?_ ?_ hhandles.inside_eq ?_ ?_
          hhandles.belongs_eq
        · intro command
          simp [places, inFlight, queued, Server.setControl, hcontrol, hqueue,
            hhandles.commands_eq, List.count_append, List.count_cons]
          omega
        · refine h.traced_handles hhandles (by simp [messages, queued, hqueue]) ?_
          intro other hother
          simp only [messages, queued, hqueue, List.mem_append, List.mem_cons] at hother ⊢
          grind
        · rw [hcontrol]
          rfl
        · exact h.receive
        · have hsc := h.sc
          rw [ScInv, hcontrol] at hsc
          rw [if_pos rfl, ScInv, hhandles.waiting_eq]
          exact hsc
      · contradiction
  | opcode =>
      simp only [Server.recv] at hstep
      split at hstep
      · rename_i held rest hcontrol hqueue
        cases hstep
        have hhandles := processOpcodeMsg_handles held
        refine h.transfer rfl rfl rfl rfl ?_ ?_ ?_ hhandles.inside_eq ?_ h.sc
          hhandles.belongs_eq
        · intro command
          simp [places, inFlight, queued, Server.setControl, hcontrol, hqueue,
            hhandles.commands_eq, List.count_append, List.count_cons]
          omega
        · refine h.traced_handles hhandles (by simp [messages, queued, hqueue]) ?_
          intro other hother
          simp only [messages, queued, hqueue, List.mem_append, List.mem_cons] at hother ⊢
          grind
        · rw [hcontrol]
          rfl
        · exact h.receive
      · contradiction

theorem Inv.scSend (h : server.Inv sqBase cqBase)
    (hstep : server.scSend = some server') : server'.Inv sqBase cqBase := by
  unfold Server.scSend at hstep
  split at hstep
  · rename_i held hcontrol
    split at hstep
    · cases hstep
      have hsc := h.sc
      have hheld : held ∈ server.messages := by
        simp [messages, hcontrol, Control.messages]
      refine h.transfer rfl rfl rfl rfl ?_ ?_ ?_ rfl h.receive ?_ rfl
      · intro command
        simp [places, inFlight, queued, Server.setControl, hcontrol,
          Control.commands, List.count_append, List.count_cons]
        omega
      · intro other hother
        rcases mem_messages_setControl hother with hnew | hother
        · cases hnew
        · have hmem : other ∈ server.messages ∨ other = held := by
            simp only [messages, queued, List.mem_append, List.mem_singleton] at hother ⊢
            grind
          rcases hmem with hmem | rfl
          · exact h.traced other hmem
          · exact h.traced other hheld
      · rw [hcontrol]
        rfl
      · rw [ScInv, hcontrol] at hsc
        simp only [Control.waiting] at hsc
        simp only [if_true, ScInv, Control.waiting, List.length_append,
          List.length_singleton]
        omega
    · contradiction
  · contradiction

theorem Inv.scAnswer (h : server.Inv sqBase cqBase)
    (hstep : server.scAnswer = some server') : server'.Inv sqBase cqBase := by
  unfold Server.scAnswer at hstep
  split at hstep
  · rename_i held rest hcontrol hqueue
    cases hstep
    have hsc := h.sc
    refine h.transfer rfl rfl rfl rfl ?_ ?_ ?_ rfl h.receive ?_ rfl
    · intro command
      simp [places, inFlight, queued, Server.setControl, hcontrol, hqueue,
        Control.commands, List.count_append, List.count_cons]
      omega
    · intro other hother
      refine h.traced other ?_
      rcases mem_messages_setControl hother with hnew | hother
      · obtain rfl : other = held := by simpa [Control.messages] using hnew
        simp [messages, queued, hqueue]
      · simp only [messages, queued, hqueue, List.mem_append, List.mem_cons] at hother ⊢
        grind
    · rw [hcontrol]
      rfl
    · rw [ScInv, hcontrol, hqueue] at hsc
      simp only [Control.waiting, List.length_cons] at hsc
      simp only [if_true, ScInv, Control.waiting]
      omega
  · contradiction

private theorem Inv.scTransfer (h : server.Inv sqBase cqBase) {scReqQueue scRespQueue : List Held}
    {scTask : Option Held}
    (hplaces : ∀ command,
      places { server with scReqQueue, scTask, scRespQueue } command =
        server.places command)
    (htraced : Traced (messages { server with scReqQueue, scTask, scRespQueue })
      server.rings.sq.got)
    (hsc : ScInv (server.control .program) scReqQueue scTask scRespQueue) :
    Inv sqBase cqBase { server with scReqQueue, scTask, scRespQueue } where
  counted := h.counted
  contents := h.contents
  once command := (hplaces command).trans (h.once command)
  traced := htraced
  receive := h.receive
  lock := h.lock
  sc := hsc
  shape := h.shape

theorem Inv.scRecv (h : server.Inv sqBase cqBase)
    (hstep : server.scRecv = some server') : server'.Inv sqBase cqBase := by
  unfold Server.scRecv at hstep
  split at hstep
  · rename_i held rest hnone hqueue
    cases hstep
    have hsc := h.sc
    refine h.scTransfer ?_ ?_ ?_
    · intro command
      simp [places, inFlight, queued, hnone, hqueue, List.count_append, List.count_cons]
      omega
    · intro other hother
      refine h.traced other ?_
      simp only [messages, queued, hnone, hqueue, List.mem_append, List.mem_cons,
        Option.toList_some, Option.toList_none] at hother ⊢
      grind
    · rw [ScInv, hnone, hqueue] at hsc
      simp only [List.length_cons, Option.toList_none, List.length_nil] at hsc
      simp only [ScInv, Option.toList_some, List.length_cons, List.length_nil]
      omega
  · contradiction

theorem Inv.scReply (h : server.Inv sqBase cqBase) {rcode : UInt32}
    (hstep : server.scReply rcode = some server') : server'.Inv sqBase cqBase := by
  unfold Server.scReply at hstep
  split at hstep
  · rename_i held hsome
    have hsc := h.sc
    rw [ScInv, hsome] at hsc
    have hwaiting : (server.control .program).waiting ≤ 1 := by
      cases server.control .program <;> simp [Control.waiting]
    simp only [Option.toList_some, List.length_cons, List.length_nil] at hsc
    split at hstep
    · cases hstep
      refine h.scTransfer ?_ ?_ ?_
      · intro command
        simp [places, inFlight, queued, hsome, Held.withRcode, List.count_append,
          List.count_cons]
      · intro other hother
        have hmem : other ∈ server.messages ∨ other = held.withRcode rcode := by
          simp only [messages, queued, hsome, List.mem_append, List.mem_cons,
            Option.toList_some, Option.toList_none] at hother ⊢
          grind
        rcases hmem with hmem | rfl
        · exact h.traced other hmem
        · exact h.traced held (by simp [messages, queued, hsome])
      · simp only [ScInv, Option.toList_none, List.length_append, List.length_cons,
          List.length_nil]
        omega
    · -- the response queue is never full: only one message is ever with the SC task
      rename_i hfull
      simp only [xgqXqueueLength] at hfull
      omega
  · contradiction

/-! ## Posting a completion -/

theorem Inv.post (h : server.Inv sqBase cqBase) {task : Task} {next : Control}
    {rings : RingPair} {lock : Option Task} {completed : List (Nat × Option Nat)}
    {action : RingAction} (hrings : server.rings.apply (.cq action) = some rings)
    (hplaces : ∀ command,
      ({ server with rings, lock, completed }.setControl task next).places command =
        server.places command)
    (hmessages : ∀ held ∈ next.messages, held ∈ (server.control task).messages)
    (hlock : LockInv (Function.update server.control task next) lock rings.cq completed
      server.rings.sq.got)
    (hbusy : server.control task ≠ .idle) (hwaiting : (server.control task).waiting = 0)
    (hnext : task = .receive → next ≠ .idle ∧ ∀ command, next ≠ .consumed command)
    (hwaiting' : next.waiting = 0) (hshape : next.belongs task = true) :
    ({ server with rings, lock, completed }.setControl task next).Inv sqBase cqBase := by
  have hrings' : ({ server with rings, lock, completed }.setControl task next).rings = rings := rfl
  have hsq := (RingPair.apply_cq hrings).2
  refine ⟨?_, ?_, ?_, ?_, ?_, ?_, ?_, ?_⟩
  · exact xgqSystem_counted.step _ _ _ h.counted hrings
  · exact ((xgqSystem_contents (by decide) (by decide)).step _ _ _
      ⟨h.counted, h.contents⟩ hrings).2
  · intro command
    rw [hplaces, h.once, hrings', hsq]
  · rw [hrings', hsq]
    intro held hheld
    rcases mem_messages_setControl hheld with hnew | hold
    · exact h.messages_of_control task held (hmessages held hnew)
    · exact h.traced held hold
  · rw [hrings', hsq, control_setControl]
    split
    · rename_i htask
      subst htask
      exact .of_working (h.receive.working hbusy) (hnext rfl).1 (hnext rfl).2
    · exact h.receive
  · rw [hrings', hsq]
    exact hlock
  · have hsc := h.sc
    rw [control_setControl]
    split
    · rename_i htask
      subst htask
      rw [ScInv, hwaiting] at hsc
      rw [ScInv, hwaiting']
      exact hsc
    · exact hsc
  · intro other
    rw [control_setControl]
    split
    · rename_i htask
      rw [htask]
      exact hshape
    · exact h.shape other

theorem Inv.produce (h : server.Inv sqBase cqBase) {task : Task} {stale : UInt64}
    (hroom : server.CqHasRoom) (hstep : server.produce task stale = some server') :
    server'.Inv sqBase cqBase := by
  unfold Server.produce at hstep
  split at hstep
  · rename_i held next hcontrol hlock
    have hroom : server.rings.cq.granted <
        server.rings.cq.released + 2 ^ rpuXgq.cq.bits := hroom
    obtain ⟨_, _, hcounts⟩ := h.counted.2
    obtain ⟨_, _, _, hcall⟩ := hcounts.xgqProduce_room hroom
    obtain ⟨ring, heq, -⟩ := h.counted.2.produce_room hroom
    obtain ⟨hgranted, hpublished⟩ := h.lock.free hlock
    have hpair : server.rings.apply (.cq .produce) =
        some { server.rings with cq := server.rings.cq.produce } := rfl
    have hshape := h.shape task
    rw [hcontrol] at hshape
    simp only [hcall] at hstep
    cases hstep
    refine h.post hpair ?_ ?_ ?_ ?_ ?_ ?_ rfl ?_
    · intro command
      have hmove := places_setControl server task
        (.granted held (some server.rings.cq.granted)
          (rpuXgq.cq.slotPtr cqBase server.rings.cq.granted) next) command
      rw [hcontrol] at hmove
      exact Nat.add_right_cancel hmove
    · rw [hcontrol]
      exact fun _ hheld => hheld
    · refine .update (fun other _ => h.lock.outside (by rw [hlock]; simp))
        (by simp [Control.inside]) (by simp) (fun hfree => by cases hfree) ?_
        (fun _ heq => by cases heq) ?_
      · intro held' slot addr following hnext
        cases hnext
        simp [setCq, heq, hgranted, hpublished]
      · have hposted := h.lock.posted
        simpa [setCq, heq] using hposted
    · rw [hcontrol]
      exact Control.noConfusion
    · rw [hcontrol]
      rfl
    · exact fun _ => ⟨Control.noConfusion, fun _ => Control.noConfusion⟩
    · cases task <;> exact hshape
  · contradiction

theorem Inv.fill (h : server.Inv sqBase cqBase) {task : Task} {result resvd : UInt32}
    (hstep : server.fill task result resvd = some server') :
    server'.Inv sqBase cqBase := by
  unfold Server.fill at hstep
  split at hstep
  · rename_i held slot addr next hcontrol
    obtain ⟨rfl, rfl, hgranted, hpublished⟩ := h.lock.granted _ _ _ _ _ hcontrol
    obtain ⟨cmd, hcmd, hcid⟩ := h.messages_of_control task held
      (by simp [hcontrol, Control.messages])
    have hshape := h.shape task
    rw [hcontrol] at hshape
    have hinside : server.lock = some task := by
      rw [← h.lock.inside_iff, hcontrol]
      rfl
    obtain ⟨_, _, hcounts⟩ := h.counted.2
    have hsize : server.rings.cq.producer.slotSz.toNat = 16 := by
      rw [hcounts.slotSz_eq]
      rfl
    have hpair : server.rings.apply (.cq (.fill server.completed.length
          (cqEntry held.msg result resvd))) =
        some { server.rings with
          memory := server.rings.memory.store
            (server.rings.cq.grantAddr server.completed.length).toNat 16
            (cqEntry held.msg result resvd)
          cq := { server.rings.cq with
            filled := Function.update server.rings.cq.filled server.completed.length
              (some (cqEntry held.msg result resvd)) } } := by
      simp [RingPair.apply, Channel.apply, hgranted, hpublished, hsize]
    cases hstep
    refine h.post hpair ?_ (fun _ hheld => by cases hheld) ?_ ?_ ?_ ?_ rfl ?_
    · intro command
      have hmove := places_setControl server task (.filled next) command
      rw [hcontrol] at hmove
      exact (places_posted (server.setControl task (.filled next)) _ _ _ command).trans hmove
    · refine .update ?_ ?_ ?_ ?_ (fun _ _ _ _ heq => by cases heq) ?_ ?_
      · intro other hne
        refine h.lock.outside fun hother => hne ?_
        exact (Option.some.inj (hinside.symm.trans hother)).symm
      · exact iff_of_true rfl hinside
      · exact fun other hother => (Option.some.inj (hinside.symm.trans hother)).symm
      · intro hfree
        cases hinside.symm.trans hfree
      · intro following _
        simp [hgranted, hpublished]
      · exact h.lock.posted_append hcmd (by rw [cqCid_cqEntry, hcid])
    · rw [hcontrol]
      exact Control.noConfusion
    · rw [hcontrol]
      rfl
    · exact fun _ => ⟨Control.noConfusion, fun _ => Control.noConfusion⟩
    · cases task <;> exact hshape
  · contradiction

theorem Inv.notifyProduced (h : server.Inv sqBase cqBase) {task : Task}
    (hstep : server.notifyProduced task = some server') :
    server'.Inv sqBase cqBase := by
  unfold Server.notifyProduced at hstep
  split at hstep
  · rename_i next hcontrol
    obtain ⟨hgranted, hpublished⟩ := h.lock.filled _ _ hcontrol
    have hpair : server.rings.apply (.cq .notifyProduced) =
        some { server.rings with cq := server.rings.cq.notifyProduced } := rfl
    have hinside : server.lock = some task := by
      rw [← h.lock.inside_iff, hcontrol]
      rfl
    have hshape := h.shape task
    rw [hcontrol] at hshape
    cases hstep
    refine h.post hpair ?_ ?_ ?_ ?_ ?_ ?_ ?_ ?_
    · intro command
      have hmove := places_setControl server task next.control command
      rw [hcontrol, Next.control_commands] at hmove
      exact hmove
    · intro held hheld
      rw [Next.control_messages] at hheld
      cases hheld
    · refine .update ?_ ?_ (fun _ hother => by cases hother) (fun _ => ⟨hgranted, hgranted⟩) ?_ ?_
        h.lock.posted
      · intro other hne
        refine h.lock.outside fun hother => hne ?_
        exact (Option.some.inj (hinside.symm.trans hother)).symm
      · simp
      · intro held slot addr following hnext
        cases next <;> cases hnext
      · intro following hnext
        cases next <;> cases hnext
    · rw [hcontrol]
      exact Control.noConfusion
    · rw [hcontrol]
      rfl
    · rintro rfl
      cases next with
      | idle => cases hshape
      | after => exact ⟨Control.noConfusion, fun _ => Control.noConfusion⟩
      | done => exact ⟨Control.noConfusion, fun _ => Control.noConfusion⟩
    · cases next <;> rfl
    · cases task <;> cases next <;> first | rfl | cases hshape
  · contradiction

/-! ## The host -/

private theorem host_frame {rings rings' : RingPair} {action : XgqAction}
    (hmay : hostMay action = true) (hstep : rings.apply action = some rings') :
    (rings'.sq.taken = rings.sq.taken ∧ rings'.sq.released = rings.sq.released ∧
      rings'.sq.got = rings.sq.got) ∧
    rings'.cq.granted = rings.cq.granted ∧ rings'.cq.published = rings.cq.published ∧
      rings'.cq.filled = rings.cq.filled ∧ rings'.cq.grantAddr = rings.cq.grantAddr := by
  rcases action with action | action
  · obtain ⟨hring, hcq⟩ := RingPair.apply_sq hstep
    refine ⟨?_, by rw [hcq]; exact ⟨rfl, rfl, rfl, rfl⟩⟩
    cases action with
    | produce =>
        obtain ⟨-, hsq⟩ : rings.memory = rings'.memory ∧ rings.sq.produce = rings'.sq := by
          simpa [Channel.apply] using hring
        rw [← hsq, Channel.produce]
        split <;> exact ⟨rfl, rfl, rfl⟩
    | fill index entry =>
        simp only [Channel.apply, Option.ite_none_right_eq_some, Option.some.injEq,
          Prod.mk.injEq] at hring
        rw [← hring.2.2]
        exact ⟨rfl, rfl, rfl⟩
    | notifyProduced =>
        simp only [Channel.apply, Option.some.injEq, Prod.mk.injEq] at hring
        rw [← hring.2]
        exact ⟨rfl, rfl, rfl⟩
    | consume => cases hmay
    | read index => cases hmay
    | notifyConsumed => cases hmay
  · obtain ⟨hring, hsq⟩ := RingPair.apply_cq hstep
    refine ⟨by rw [hsq]; exact ⟨rfl, rfl, rfl⟩, ?_⟩
    cases action with
    | produce => cases hmay
    | fill index entry => cases hmay
    | notifyProduced => cases hmay
    | consume =>
        obtain ⟨-, hcq⟩ : rings.memory = rings'.memory ∧ rings.cq.consume = rings'.cq := by
          simpa [Channel.apply] using hring
        rw [← hcq, Channel.consume]
        split <;> exact ⟨rfl, rfl, rfl, rfl⟩
    | read index =>
        simp only [Channel.apply, Option.ite_none_right_eq_some, Option.some.injEq,
          Prod.mk.injEq] at hring
        rw [← hring.2.2]
        exact ⟨rfl, rfl, rfl, rfl⟩
    | notifyConsumed =>
        simp only [Channel.apply, Option.some.injEq, Prod.mk.injEq] at hring
        rw [← hring.2]
        exact ⟨rfl, rfl, rfl, rfl⟩

theorem Inv.host (h : server.Inv sqBase cqBase) {action : XgqAction}
    (hstep : server.apply (.host action) = some server') : server'.Inv sqBase cqBase := by
  simp only [Server.apply] at hstep
  split at hstep
  · rename_i hmay
    cases hrings : server.rings.apply action with
    | none => simp [hrings] at hstep
    | some rings =>
        obtain ⟨⟨htaken, hreleased, hgot⟩, hgranted, hpublished, hfilled, haddr⟩ :=
          host_frame hmay hrings
        simp only [hrings, Option.bind_eq_bind, Option.bind_some] at hstep
        cases hstep
        refine ⟨xgqSystem_counted.step _ _ _ h.counted hrings,
          ((xgqSystem_contents (by decide) (by decide)).step _ _ _
            ⟨h.counted, h.contents⟩ hrings).2, ?_, ?_, ?_, ?_, h.sc, h.shape⟩
        · intro command
          simp only [htaken]
          exact h.once command
        · simp only [hgot]
          exact h.traced
        · have hreceive := h.receive
          exact ⟨by simpa only [htaken, hreleased] using hreceive.returned,
            by simpa only [htaken, hreleased] using hreceive.working,
            by simpa only [htaken, hgot] using hreceive.fresh⟩
        · have hlock := h.lock
          exact ⟨hlock.inside_iff,
            by simpa only [hgranted, hpublished] using hlock.free,
            by simpa only [hgranted, hpublished, haddr] using hlock.granted,
            by simpa only [hgranted, hpublished] using hlock.filled,
            by simpa only [hfilled, hgot] using hlock.posted⟩
  · contradiction

theorem Inv.step (h : server.Inv sqBase cqBase) {action : ServerAction}
    (hroom : action.meetsRoom server) (hstep : server.apply action = some server') :
    server'.Inv sqBase cqBase := by
  cases action with
  | host action => exact h.host hstep
  | consume => exact h.consume hstep
  | submit => exact h.submit hstep
  | send => exact h.send hstep
  | sendTimeout => exact h.sendTimeout hstep
  | notifyConsumed => exact h.notifyConsumed hstep
  | recv task => exact h.recv hstep
  | scSend => exact h.scSend hstep
  | scSendTimeout => exact h.scSendTimeout hstep
  | scRecv => exact h.scRecv hstep
  | scReply rcode => exact h.scReply hstep
  | scAnswer => exact h.scAnswer hstep
  | finish task rcode => exact h.finish hstep
  | finishAfter task => exact h.finishAfter hstep
  | produce task stale => exact h.produce hroom hstep
  | fill task result resvd => exact h.fill hstep
  | notifyProduced task => exact h.notifyProduced hstep

end Server

private theorem serverSystem_inv (sqBase cqBase : UInt32) :
    ((serverSystem sqBase cqBase).restrict fun server action =>
      action.meetsRoom server).Invariant (Server.Inv sqBase cqBase) where
  init := by
    rintro _ ⟨memory, rfl⟩
    exact .init memory
  step := by
    rintro server action server' h ⟨hroom, hstep⟩
    exact h.step hroom hstep

/-! ## Progress -/

def Next.work : Next → Nat
  | .idle => 0
  | .after | .done => 1

def Control.work : Control → Nat
  | .idle | .scWaiting => 0
  | .after | .done => 1
  | .filled next => 1 + next.work
  | .granted _ _ _ next => 2 + next.work
  | .locking _ next => 3 + next.work
  | .running _ => 5
  | .scSending _ => 7
  | .sending _ _ => 10
  | .consumed _ => 11

private theorem Handles.work_lt {task : Task} {held : Held} {next : Control}
    (h : Handles task held next) (htask : task ≠ .receive) : next.work < 8 := by
  obtain ⟨-, -, hinside, -, hbelongs⟩ := h
  cases next with
  | locking other following => cases following <;> simp [Control.work, Next.work]
  | granted other slot addr following => cases hinside
  | filled following => cases hinside
  | consumed command => cases task <;> simp [Control.belongs] at htask hbelongs
  | sending other qid => cases task <;> simp [Control.belongs] at htask hbelongs
  | _ => simp [Control.work]

namespace Server

def work (server : Server) : Nat :=
  (server.control .receive).work + (server.control .program).work +
    (server.control .opcode).work + 8 * server.programQueue.length +
    8 * server.opcodeQueue.length + 6 * server.scReqQueue.length +
    5 * server.scTask.toList.length + 4 * server.scRespQueue.length

/-- Some task can take a step that the completion ring allows and that counts. -/
def CanWork (server : Server) : Prop :=
  ∃ action server', server.apply action = some server' ∧ action.meetsRoom server ∧
    server'.work < server.work

variable {server : Server} {sqBase cqBase : UInt32}

private theorem work_setControl (server : Server) (task : Task) (control : Control) :
    (server.setControl task control).work + (server.control task).work =
      server.work + control.work := by
  cases task <;> simp [work, setControl] <;> omega

private theorem canWork_of_step (task : Task) (control : Control) (action : ServerAction)
    {server' : Server} (hstep : server.apply action = some server')
    (hmeets : action.meetsRoom server)
    (hless : control.work < (server.control task).work)
    (hwork : server'.work = (server.setControl task control).work) : server.CanWork := by
  have hmove := work_setControl server task control
  exact ⟨action, server', hstep, hmeets, by omega⟩

private theorem canWork_produce {task : Task} {held : Held} {next : Next}
    (hroom : server.CqHasRoom) (hlock : server.lock = none)
    (hcontrol : server.control task = .locking held next) : server.CanWork := by
  obtain ⟨slot, addr, hstep⟩ : ∃ slot addr, server.apply (.produce task 0) =
      some ({ server.setCq server.rings.cq.produce with lock := some task }.setControl task
        (.granted held slot addr next)) := by
    simp only [Server.apply, Server.produce, hcontrol, hlock]
    split
    · exact ⟨_, _, rfl⟩
    · exact ⟨_, _, rfl⟩
  refine canWork_of_step task (.granted held slot addr next) _ hstep hroom ?_ rfl
  simp [hcontrol, Control.work]

private theorem Inv.canWork_inside (h : server.Inv sqBase cqBase) {task : Task}
    (hlock : server.lock = some task) : server.CanWork := by
  have hinside := (h.lock.inside_iff task).2 hlock
  cases hcontrol : server.control task with
  | granted held slot addr next =>
      refine canWork_of_step task (.filled next) (.fill task 0 0)
        (by simp only [Server.apply, Server.fill, hcontrol]; rfl) trivial ?_ (by rfl)
      simp [hcontrol, Control.work]
  | filled next =>
      refine canWork_of_step task next.control (.notifyProduced task)
        (by simp only [Server.apply, Server.notifyProduced, hcontrol]; rfl) trivial ?_ (by rfl)
      cases next <;> simp [hcontrol, Next.control, Control.work, Next.work]
  | _ => simp [hcontrol, Control.inside] at hinside

private theorem Inv.canWork_submit (h : server.Inv sqBase cqBase) {command : Nat}
    (hcontrol : server.control .receive = .consumed command) : server.CanWork := by
  obtain ⟨htaken, -⟩ := h.receive.fresh command hcontrol
  have hworking := h.receive.working (by rw [hcontrol]; exact Control.noConfusion)
  have hread : server.rings.sq.released ≤ command ∧ command < server.rings.sq.taken := by
    omega
  cases hrings : server.rings.apply (.sq (.read command)) with
  | none => simp [RingPair.apply, Channel.apply, hread] at hrings
  | some rings =>
      obtain ⟨cmd, hcmd⟩ : ∃ cmd, rings.sq.got command = some cmd := by
        obtain ⟨hring, -⟩ := RingPair.apply_sq hrings
        simp only [Channel.apply, hread, and_self, if_true, Option.some.injEq,
          Prod.mk.injEq] at hring
        rw [← hring.2]
        exact ⟨_, by simp; rfl⟩
      obtain ⟨control, hsubmit, hless⟩ : ∃ control,
          server.submit = some ({ server with rings }.setControl .receive control) ∧
            control.work < (server.control .receive).work := by
        simp only [Server.submit, hcontrol, hrings, Option.bind_eq_bind, Option.bind_some, hcmd]
        cases submitToQueue cmd with
        | none => exact ⟨_, rfl, by simp [Control.work, Next.work]⟩
        | some result => exact ⟨_, rfl, by simp [Control.work]⟩
      exact canWork_of_step .receive control .submit hsubmit trivial hless rfl

private theorem Inv.canWork_receive (h : server.Inv sqBase cqBase) (hroom : server.CqHasRoom)
    (hlock : server.lock = none) (hbusy : server.control .receive ≠ .idle) :
    server.CanWork := by
  have hshape := h.shape .receive
  have houtside := h.lock.inside_iff .receive
  cases hcontrol : server.control .receive with
  | consumed command => exact h.canWork_submit hcontrol
  | sending held qid =>
      by_cases hfull : (server.queue qid).length < xgqXqueueLength
      · refine ⟨.send, (server.push qid held).setControl .receive .done, ?_, trivial, ?_⟩
        · simp [Server.apply, Server.send, hcontrol, hfull]
        · cases qid <;>
            simp [work, push, Server.setControl, hcontrol, Control.work]
          all_goals omega
      · obtain ⟨cmd, hcmd, -⟩ := h.messages_of_control .receive held
          (by simp [hcontrol, Control.messages])
        refine canWork_of_step .receive
          (.locking ⟨held.command, abortMsg cmd⟩ .done) .sendTimeout ?_ trivial ?_ rfl
        · simp [Server.apply, Server.sendTimeout, hcontrol, Nat.not_lt.1 hfull, hcmd]
        · simp [hcontrol, Control.work, Next.work]
  | locking held next => exact canWork_produce hroom hlock hcontrol
  | done =>
      refine canWork_of_step .receive .idle .notifyConsumed
        (by simp only [Server.apply, Server.notifyConsumed, hcontrol]; rfl) trivial ?_ (by rfl)
      simp [hcontrol, Control.work]
  | idle => exact (hbusy hcontrol).elim
  | granted held slot addr next => simp [hcontrol, hlock, Control.inside] at houtside
  | filled next => simp [hcontrol, hlock, Control.inside] at houtside
  | _ => simp [hcontrol, Control.belongs] at hshape

private theorem canWork_worker {task : Task} {held : Held} (queued : Server)
    {next : Control} (htask : task ≠ .receive)
    (hstep : server.apply (.recv task) = some (queued.setControl task next))
    (hcontrol : server.control task = .idle) (hqueued : queued.control = server.control)
    (hhandles : Handles task held next) (hwork : queued.work + 8 = server.work) :
    server.CanWork := by
  refine ⟨_, _, hstep, trivial, ?_⟩
  have hmove := work_setControl queued task next
  rw [hqueued, hcontrol] at hmove
  have hless := hhandles.work_lt htask
  rw [show Control.idle.work = 0 from rfl] at hmove
  omega

private theorem Inv.canWork_scWaiting (h : server.Inv sqBase cqBase)
    (hcontrol : server.control .program = .scWaiting) : server.CanWork := by
  have hsc := h.sc
  rw [ScInv, hcontrol] at hsc
  simp only [Control.waiting] at hsc
  cases htask : server.scTask with
  | some held =>
      have hless : server.scRespQueue.length < xgqXqueueLength := by
        rw [htask] at hsc
        simp only [Option.toList_some, List.length_cons, List.length_nil] at hsc
        simp only [xgqXqueueLength]
        omega
      refine ⟨.scReply 0, _,
        by simp only [Server.apply, Server.scReply, htask, hless, if_true]; rfl, trivial, ?_⟩
      simp [work, htask]
      omega
  | none =>
      cases hreq : server.scReqQueue with
      | cons held rest =>
          refine ⟨.scRecv, _, by simp only [Server.apply, Server.scRecv, htask, hreq]; rfl,
            trivial, ?_⟩
          simp [work, htask, hreq]
          omega
      | nil =>
          cases hresp : server.scRespQueue with
          | cons held rest =>
              refine ⟨.scAnswer, _,
                by simp only [Server.apply, Server.scAnswer, hcontrol, hresp]; rfl,
                trivial, ?_⟩
              simp [work, Server.setControl, hcontrol, hresp, Control.work, Next.work]
              omega
          | nil => simp [htask, hreq, hresp] at hsc

private theorem Inv.canWork_worker (h : server.Inv sqBase cqBase) (hroom : server.CqHasRoom)
    (hlock : server.lock = none) {task : Task} (htask : task ≠ .receive)
    (hbusy : server.control task ≠ .idle) : server.CanWork := by
  have hshape := h.shape task
  have houtside := h.lock.inside_iff task
  cases hcontrol : server.control task with
  | scSending held =>
      obtain rfl : task = .program := by
        cases task <;> simp [hcontrol, Control.belongs] at hshape ⊢
      by_cases hfull : server.scReqQueue.length < xgqXqueueLength
      · refine ⟨.scSend, _,
          by simp only [Server.apply, Server.scSend, hcontrol, hfull, if_true]; rfl,
          trivial, ?_⟩
        simp [work, Server.setControl, hcontrol, Control.work]
        omega
      · refine canWork_of_step .program
          (.locking (held.withRcode rcodeEio) .idle) .scSendTimeout ?_ trivial ?_ rfl
        · simp [Server.apply, Server.scSendTimeout, hcontrol, Nat.not_lt.1 hfull]
        · simp [hcontrol, Control.work, Next.work]
  | scWaiting =>
      obtain rfl : task = .program := by
        cases task <;> simp [hcontrol, Control.belongs] at hshape ⊢
      exact h.canWork_scWaiting hcontrol
  | running held =>
      refine canWork_of_step task
          (.locking (held.withRcode 0) .idle) (.finish task 0) ?_ trivial ?_ rfl
      · simp [Server.apply, Server.finish, hcontrol]
      · simp [hcontrol, Control.work, Next.work]
  | locking held next => exact canWork_produce hroom hlock hcontrol
  | after =>
      refine canWork_of_step task .idle (.finishAfter task) ?_ trivial ?_ rfl
      · simp [Server.apply, Server.finishAfter, hcontrol]
      · simp [hcontrol, Control.work]
  | idle => exact (hbusy hcontrol).elim
  | granted held slot addr next => simp [hcontrol, hlock, Control.inside] at houtside
  | filled next => simp [hcontrol, hlock, Control.inside] at houtside
  | consumed command => cases task <;> simp [hcontrol, Control.belongs] at htask hshape
  | sending held qid => cases task <;> simp [hcontrol, Control.belongs] at htask hshape
  | done => cases task <;> simp [hcontrol, Control.belongs] at htask hshape

/-- While a command is in flight the server is not stuck. -/
theorem Inv.canWork (h : server.Inv sqBase cqBase) (hroom : server.CqHasRoom)
    (hflight : server.inFlight ≠ []) : server.CanWork := by
  cases hlock : server.lock with
  | some task => exact h.canWork_inside hlock
  | none =>
      by_cases hreceive : server.control .receive = .idle
      case neg => exact h.canWork_receive hroom hlock hreceive
      by_cases hprogram : server.control .program = .idle
      case neg => exact h.canWork_worker hroom hlock (by decide) hprogram
      by_cases hopcode : server.control .opcode = .idle
      case neg => exact h.canWork_worker hroom hlock (by decide) hopcode
      have hsc := h.sc
      rw [ScInv, hprogram] at hsc
      simp only [Control.waiting] at hsc
      cases hqueue : server.programQueue with
      | cons held rest =>
          refine Server.canWork_worker { server with programQueue := rest } (by decide) ?_ hprogram rfl
            (processProgramMsg_handles held) ?_
          · simp [Server.apply, Server.recv, hprogram, hqueue]
          · simp [work, hqueue]
            omega
      | nil =>
          cases hqueue' : server.opcodeQueue with
          | cons held rest =>
              refine Server.canWork_worker { server with opcodeQueue := rest } (by decide) ?_ hopcode rfl
                (processOpcodeMsg_handles held) ?_
              · simp [Server.apply, Server.recv, hopcode, hqueue']
              · simp [work, hqueue']
                omega
          | nil =>
              have hreq : server.scReqQueue = [] := List.length_eq_zero_iff.1 (by omega)
              have hresp : server.scRespQueue = [] := List.length_eq_zero_iff.1 (by omega)
              have htask : server.scTask.toList = [] := List.length_eq_zero_iff.1 (by omega)
              refine (hflight ?_).elim
              simp [inFlight, queued, hreceive, hprogram, hopcode, hqueue, hqueue', hreq,
                hresp, htask]

end Server

/-! ## Accounting -/

/--
What the server guarantees in a state.  `once`: each command taken off the
submission ring is in exactly one place, in flight or completed.  `posted`: the
`k`-th completion is the one entry of the `k`-th granted slot and carries its
command's id.  `published`: outside the mutex every completion has been
published.  `kept`: an entry the host has not given back is still in memory as
written.  `progress`: a command in flight moves on while there is room.
-/
structure Server.Accounted (server : Server) : Prop where
  once : ∀ command, server.inFlight.count command +
    (server.completed.map Prod.fst).count command =
      if command < server.rings.sq.taken then 1 else 0
  posted : ∀ k command slot, server.completed[k]? = some (command, slot) →
    slot = some k ∧ k < server.rings.cq.granted ∧
      ∃ entry cmd, server.rings.cq.filled k = some entry ∧
        server.rings.sq.got command = some cmd ∧ cqCid entry = sqCid cmd
  published : server.lock = none →
    server.rings.cq.published = server.completed.length
  kept : ∀ k entry, server.rings.cq.released ≤ k →
    server.rings.cq.filled k = some entry → ∀ offset < 16,
      server.rings.memory ((server.rings.cq.grantAddr k).toNat + offset) = entry offset
  delivered : server.rings.sq.Delivered rpuXgq.sq ∧ server.rings.cq.Delivered rpuXgq.cq
  progress : server.CqHasRoom → server.inFlight ≠ [] → server.CanWork

private theorem Server.Inv.accounted {server : Server} {sqBase cqBase : UInt32}
    (h : server.Inv sqBase cqBase) : server.Accounted where
  once := h.once
  posted k command slot hk := by
    obtain ⟨hslot, entry, cmd, hfilled, hcmd, hcid⟩ := h.lock.posted k command slot hk
    exact ⟨hslot, h.contents.2.filled_lt k entry hfilled, entry, cmd, hfilled, hcmd, hcid⟩
  published hlock := (h.lock.free hlock).2
  kept k entry hlive hfilled offset hoffset := by
    obtain ⟨_, _, hcounts⟩ := h.counted.2
    rw [hcounts.grantAddr_eq k (h.contents.2.filled_lt k entry hfilled)]
    exact h.contents.2.stored k entry hlive hfilled offset hoffset
  delivered := ⟨Channel.delivered (by decide) h.counted.1 h.contents.1,
    Channel.delivered (by decide) h.counted.2 h.contents.2⟩
  progress hroom hflight := h.canWork hroom hflight

/--
In every run that posts completions only while the completion ring has room,
commands and completions are accounted for in every state.
-/
theorem server_accounted (sqBase cqBase : UInt32) (server : Server)
    (h : ((serverSystem sqBase cqBase).restrict fun server action =>
      action.meetsRoom server).Reachable server) : server.Accounted :=
  (h.invariant (serverSystem_inv sqBase cqBase)).accounted

/-! ## A host that keeps up, and one that lags -/

/-- A submission with an opcode the server does not know. -/
def unknownCommand (cid : UInt8) : Entry := fun offset =>
  if offset = 0 then 0x55 else if offset = 4 then cid else 0

/-- The host submits command number `index`, the server aborts it. -/
def abortRound (index : Nat) : List ServerAction :=
  [.host (.sq .produce), .host (.sq (.fill index (unknownCommand (.ofNat index)))),
    .host (.sq .notifyProduced), .consume, .submit, .produce .receive 0xdead0000,
    .fill .receive 0 0, .notifyProduced .receive, .notifyConsumed]

def startServer : Server := .init (.init rpuXgq (fun _ => 0) 0 0)

def Server.applyRoom (server : Server) (action : ServerAction) : Option Server :=
  match action with
  | .produce task stale => if server.CqHasRoom then server.produce task stale else none
  | action => server.apply action

private theorem Server.applyRoom_step {server server' : Server} {action : ServerAction}
    (h : server.applyRoom action = some server') :
    action.meetsRoom server ∧ server.apply action = some server' := by
  cases action with
  | produce task stale =>
      simp only [applyRoom, Option.ite_none_right_eq_some] at h
      exact h
  | _ => exact ⟨trivial, h⟩

def fourRounds : Option Server :=
  TransitionSystem.runLabels Server.applyRoom ((List.range 4).flatMap abortRound)
    startServer

theorem server_accounted_four_rounds :
    fourRounds.map (fun server => server.completed) =
        some [(0, some 0), (1, some 1), (2, some 2), (3, some 3)] ∧
      ∀ server, fourRounds = some server → server.Accounted := by
  refine ⟨by decide +kernel, fun server h => ?_⟩
  exact server_accounted 0 0 server
    (.runLabels (fun _ _ _ _ hstep => ⟨Server.applyRoom_step hstep, trivial⟩)
      (.init ⟨fun _ => 0, rfl⟩) trivial h)

def fiveRounds : Option Server :=
  TransitionSystem.runLabels Server.apply ((List.range 5).flatMap abortRound) startServer

/--
With no completion read by the host, the fifth command is completed without a
slot, at whatever address was on the stack.
-/
theorem server_not_accounted :
    ¬ ∀ (sqBase cqBase : UInt32) (server : Server),
      (serverSystem sqBase cqBase).Reachable server → server.Accounted := by
  intro hall
  have hcompleted : fiveRounds.map (fun server => server.completed[4]?) =
      some (some (4, none)) := by
    decide +kernel
  cases hrun : fiveRounds with
  | none => simp [hrun] at hcompleted
  | some server =>
      simp only [hrun, Option.map_some, Option.some.injEq] at hcompleted
      have hreach : (serverSystem 0 0).Reachable server :=
        .runLabels (fun _ _ _ _ hstep => ⟨hstep, trivial⟩) (.init ⟨fun _ => 0, rfl⟩)
          trivial hrun
      cases ((hall 0 0 server hreach).posted 4 4 none hcompleted).1

end Vmr.Xgq
