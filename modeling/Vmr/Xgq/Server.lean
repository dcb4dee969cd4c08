import Vmr.Xgq.Command
import Vmr.Xgq.Protocol

/-!
# The XGQ server of the RPU

The receive task takes commands off the submission ring and queues them for the
program task or the opcode task; a command that cannot be queued is completed
with an error right away.  The program task hands SC firmware to the SC task
through two more queues.  All three tasks complete commands through
`cl_msg_handle_complete`, which posts to the completion ring under a mutex.

Every step of a task between two points where another task, or the host, can
interfere is one `ServerAction`.  What a command does while it is executed is
left open: its return code and the two result words of its completion are part
of the action.  `Held` ties a message to the number of its submission entry,
and `completed` records which command was completed into which slot.
-/

namespace Vmr.Xgq

open Vmr.Lib

def rpuXgq : XgqLayout := rpuLayout 0x38001000 (by decide)

def xgqXqueueLength : Nat := 8

inductive Task where
  | receive | program | opcode
  deriving DecidableEq, Repr

structure Held where
  command : Nat
  msg : ClMsg

inductive Next where
  | idle | after | done
  deriving DecidableEq, Repr

/--
Where a task is.  `locking` is at the mutex, `granted` has it and has called
`xgq_produce`, `filled` has written the entry.  `after` runs a callback whose
command was completed first, `done` is about to give its submission slot back.
-/
inductive Control where
  | idle
  | consumed (command : Nat)
  | sending (held : Held) (qid : QueueId)
  | scSending (held : Held)
  | scWaiting
  | running (held : Held)
  | locking (held : Held) (next : Next)
  | granted (held : Held) (slot : Option Nat) (addr : UInt64) (next : Next)
  | filled (next : Next)
  | after
  | done

def Next.control : Next → Control
  | .idle => .idle
  | .after => .after
  | .done => .done

structure Server where
  rings : RingPair
  control : Task → Control
  programQueue : List Held
  opcodeQueue : List Held
  scReqQueue : List Held
  scTask : Option Held
  scRespQueue : List Held
  lock : Option Task
  completed : List (Nat × Option Nat)

inductive ServerAction where
  | host (action : XgqAction)
  | consume
  | submit
  | send
  | sendTimeout
  | notifyConsumed
  | recv (task : Task)
  | scSend
  | scSendTimeout
  | scRecv
  | scReply (rcode : UInt32)
  | scAnswer
  | finish (task : Task) (rcode : UInt32)
  | finishAfter (task : Task)
  | produce (task : Task) (stale : UInt64)
  | fill (task : Task) (result resvd : UInt32)
  | notifyProduced (task : Task)

def hostMay : XgqAction → Bool
  | .sq .produce | .sq (.fill _ _) | .sq .notifyProduced => true
  | .cq .consume | .cq (.read _) | .cq .notifyConsumed => true
  | _ => false

def programHandles : List MsgType := [.pdi, .apubin, .xclbin, .programScfw, .programVmr]

def opcodeHandles : List MsgType :=
  [.logPage, .clock, .vmrControl, .sensor, .clkThrottling, .vmrIdentify]

def Held.withRcode (held : Held) (rcode : UInt32) : Held :=
  { held with msg := { held.msg with rcode } }

def processProgramMsg (held : Held) : Control :=
  if held.msg.type ∈ programHandles then
    match held.msg.type with
    | .programVmr => .locking (held.withRcode 0) .after
    | .programScfw => .scSending held
    | _ => .running held
  else .locking (held.withRcode rcodeEinval) .idle

def processOpcodeMsg (held : Held) : Control :=
  if held.msg.type ∈ opcodeHandles then
    if held.msg.multiboot.reqType == clVmrEemiSrst then
      .locking (held.withRcode 0) .after
    else .running held
  else .locking (held.withRcode rcodeEinval) .idle

namespace Server

variable (server : Server)

def setControl (task : Task) (control : Control) : Server :=
  { server with control := Function.update server.control task control }

def push (qid : QueueId) (held : Held) : Server :=
  match qid with
  | .program => { server with programQueue := server.programQueue ++ [held] }
  | .opcode => { server with opcodeQueue := server.opcodeQueue ++ [held] }

def queue : QueueId → List Held
  | .program => server.programQueue
  | .opcode => server.opcodeQueue

def setSq (sq : Channel) : Server :=
  { server with rings := { server.rings with sq } }

def setCq (cq : Channel) : Server :=
  { server with rings := { server.rings with cq } }

/-! ## The receive task -/

def consume : Option Server :=
  match server.control .receive with
  | .idle =>
      match (xgqConsume server.rings.sq.produced server.rings.sq.consumer).1 with
      | none => some (server.setSq server.rings.sq.consume)
      | some _ =>
          some ((server.setSq server.rings.sq.consume).setControl .receive
            (.consumed server.rings.sq.taken))
  | _ => none

def submit : Option Server :=
  match server.control .receive with
  | .consumed command => do
      let rings ← server.rings.apply (.sq (.read command))
      let cmd ← rings.sq.got command
      match submitToQueue cmd with
      | some (msg, qid) =>
          return { server with rings }.setControl .receive (.sending ⟨command, msg⟩ qid)
      | none =>
          return { server with rings }.setControl .receive
            (.locking ⟨command, abortMsg cmd⟩ .done)
  | _ => none

def send : Option Server :=
  match server.control .receive with
  | .sending held qid =>
      if (server.queue qid).length < xgqXqueueLength then
        some ((server.push qid held).setControl .receive .done)
      else none
  | _ => none

def sendTimeout : Option Server :=
  match server.control .receive with
  | .sending held qid =>
      if xgqXqueueLength ≤ (server.queue qid).length then do
        let cmd ← server.rings.sq.got held.command
        return server.setControl .receive (.locking ⟨held.command, abortMsg cmd⟩ .done)
      else none
  | _ => none

def notifyConsumed : Option Server :=
  match server.control .receive with
  | .done =>
      some ((server.setSq server.rings.sq.notifyConsumed).setControl .receive .idle)
  | _ => none

/-! ## The program, opcode and SC tasks -/

def recv : Task → Option Server
  | .program =>
      match server.control .program, server.programQueue with
      | .idle, held :: rest =>
          some ({ server with programQueue := rest }.setControl .program
            (processProgramMsg held))
      | _, _ => none
  | .opcode =>
      match server.control .opcode, server.opcodeQueue with
      | .idle, held :: rest =>
          some ({ server with opcodeQueue := rest }.setControl .opcode
            (processOpcodeMsg held))
      | _, _ => none
  | .receive => none

def scSend : Option Server :=
  match server.control .program with
  | .scSending held =>
      if server.scReqQueue.length < xgqXqueueLength then
        some ({ server with scReqQueue := server.scReqQueue ++ [held] }.setControl
          .program .scWaiting)
      else none
  | _ => none

def scSendTimeout : Option Server :=
  match server.control .program with
  | .scSending held =>
      if xgqXqueueLength ≤ server.scReqQueue.length then
        some (server.setControl .program (.locking (held.withRcode rcodeEio) .idle))
      else none
  | _ => none

def scRecv : Option Server :=
  match server.scTask, server.scReqQueue with
  | none, held :: rest =>
      some { server with scTask := some held, scReqQueue := rest }
  | _, _ => none

/-- The SC task drops its answer when the response queue is full. -/
def scReply (rcode : UInt32) : Option Server :=
  match server.scTask with
  | some held =>
      if server.scRespQueue.length < xgqXqueueLength then
        some { server with
          scTask := none
          scRespQueue := server.scRespQueue ++ [held.withRcode rcode] }
      else some { server with scTask := none }
  | none => none

def scAnswer : Option Server :=
  match server.control .program, server.scRespQueue with
  | .scWaiting, held :: rest =>
      some ({ server with scRespQueue := rest }.setControl .program (.locking held .idle))
  | _, _ => none

def finish (task : Task) (rcode : UInt32) : Option Server :=
  match server.control task with
  | .running held =>
      some (server.setControl task (.locking (held.withRcode rcode) .idle))
  | _ => none

def finishAfter (task : Task) : Option Server :=
  match server.control task with
  | .after => some (server.setControl task .idle)
  | _ => none

/-! ## `cl_msg_handle_complete` -/

/--
Take the mutex and call `xgq_produce`.  Its result is not looked at: without a
slot, `cq_slot_addr` keeps whatever `stale` value the stack held.
-/
def produce (task : Task) (stale : UInt64) : Option Server :=
  match server.control task, server.lock with
  | .locking held next, none =>
      let cq := server.rings.cq
      let control := match (xgqProduce cq.consumed cq.producer).1 with
        | some addr => Control.granted held (some cq.granted) addr next
        | none => Control.granted held none stale next
      some ({ server.setCq cq.produce with lock := some task }.setControl task control)
  | _, _ => none

def fill (task : Task) (result resvd : UInt32) : Option Server :=
  match server.control task with
  | .granted held slot addr next =>
      let entry := cqEntry held.msg result resvd
      let cq := server.rings.cq
      let filled := match slot with
        | some index => Function.update cq.filled index (some entry)
        | none => cq.filled
      some ({ server with
        rings := { server.rings with
          memory := server.rings.memory.store addr.toNat 16 entry
          cq := { cq with filled } }
        completed := server.completed ++ [(held.command, slot)] }.setControl task
          (.filled next))
  | _ => none

def notifyProduced (task : Task) : Option Server :=
  match server.control task with
  | .filled next =>
      some ({ server.setCq server.rings.cq.notifyProduced with lock := none }.setControl
        task next.control)
  | _ => none

def apply : ServerAction → Option Server
  | .host action =>
      if hostMay action then do
        let rings ← server.rings.apply action
        return { server with rings }
      else none
  | .consume => server.consume
  | .submit => server.submit
  | .send => server.send
  | .sendTimeout => server.sendTimeout
  | .notifyConsumed => server.notifyConsumed
  | .recv task => server.recv task
  | .scSend => server.scSend
  | .scSendTimeout => server.scSendTimeout
  | .scRecv => server.scRecv
  | .scReply rcode => server.scReply rcode
  | .scAnswer => server.scAnswer
  | .finish task rcode => server.finish task rcode
  | .finishAfter task => server.finishAfter task
  | .produce task stale => server.produce task stale
  | .fill task result resvd => server.fill task result resvd
  | .notifyProduced task => server.notifyProduced task

def init (rings : RingPair) : Server where
  rings := rings
  control := fun _ => .idle
  programQueue := []
  opcodeQueue := []
  scReqQueue := []
  scTask := none
  scRespQueue := []
  lock := none
  completed := []

end Server

def serverSystem (sqBase cqBase : UInt32) : TransitionSystem Server ServerAction where
  init server := ∃ memory, server = .init (.init rpuXgq memory sqBase cqBase)
  step server action server' := server.apply action = some server'

end Vmr.Xgq
