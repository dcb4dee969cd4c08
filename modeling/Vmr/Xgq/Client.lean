import Vmr.Xgq.Command
import Vmr.Xgq.Protocol

/-!
# The XGQ client of the APU channel

The RPU sends identify, log-page and xclbin-trunk requests to the APU.  Each
request produces one submission and then polls the completion ring once a
second; the first completion it finds is taken as its answer, whatever request
that completion answers, because every command carries the same id.  After
`APU_XGQ_TIMEOUT` polls it gives up.  A log-page request and a whole xclbin
download hold `semaData`; identify takes no lock.

Requests are numbered.  `submissions` lists which request each submission entry
belongs to, `answers` which submission each completion answers, and `consumed`
which completion each request took for its own.  The word that
`read_completion` clears in a slot it is about to give back is left out.
-/

namespace Vmr.Xgq

open Vmr.Lib

def apuMagicId : UInt16 := 0x4150

def apuXgqTimeout : Nat := 15

inductive RequestKind where
  | identify | logPage | trunk
  deriving DecidableEq, Repr

def RequestKind.opcode : RequestKind → UInt16
  | .identify => 0x202
  | .logPage => 0x8
  | .trunk => 0x0

def RequestKind.count : RequestKind → UInt16
  | .identify => 0
  | .logPage => 24
  | .trunk => 32

def sqCmd (kind : RequestKind) (payload : Entry) : Entry := fun offset =>
  if offset < 2 then byteAt kind.opcode.toNat offset
  else if offset < 4 then byteAt (kind.count.toNat + 2 ^ 15) (offset - 2)
  else if offset < 6 then byteAt apuMagicId.toNat (offset - 4)
  else payload offset

def sqCmdSize : Nat := 40

inductive Phase where
  | unborn
  | ready (kind : RequestKind)
  | granted (kind : RequestKind) (submission : Nat)
  | filled (kind : RequestKind) (submission : Nat)
  | polling (kind : RequestKind) (submission : Nat) (polls : Nat)
  | taken (kind : RequestKind) (submission completion : Nat)
  | interpreted (kind : RequestKind) (submission : Nat)
  | finished
  deriving DecidableEq, Repr

inductive Holder where
  | logPage (request : Nat)
  | download (trunk : Option Nat)
  deriving DecidableEq, Repr

structure Client where
  rings : RingPair
  request : Nat → Phase
  semaData : Option Holder
  submissions : List Nat
  answers : List Nat
  consumed : List (Nat × Nat)

inductive ClientAction where
  | acquireDownload
  | releaseDownload
  | begin (request : Nat) (kind : RequestKind)
  | produce (request : Nat)
  | fill (request : Nat) (payload : Entry)
  | notify (request : Nat)
  | poll (request : Nat)
  | interpret (request : Nat)
  | finish (request : Nat)
  | apuTake (action : RingAction)
  | apuAnswer (submission : Nat)
  | apuFill (completion : Nat) (entry : Entry)
  | apuPublish

namespace Client

variable (client : Client)

def setRequest (request : Nat) (phase : Phase) : Client :=
  { client with request := Function.update client.request request phase }

/-- A request is over: what it holds of `semaData` is given back. -/
def release (request : Nat) : Client :=
  match client.semaData with
  | some (.logPage holder) =>
      if holder = request then { client with semaData := none } else client
  | some (.download (some trunk)) =>
      if trunk = request then { client with semaData := some (.download none) } else client
  | _ => client

def begin (request : Nat) (kind : RequestKind) : Option Client :=
  match client.request request, kind, client.semaData with
  | .unborn, .identify, _ => some (client.setRequest request (.ready .identify))
  | .unborn, .logPage, none =>
      some ({ client with semaData := some (.logPage request) }.setRequest request
        (.ready .logPage))
  | .unborn, .trunk, some (.download none) =>
      some ({ client with semaData := some (.download (some request)) }.setRequest request
        (.ready .trunk))
  | _, _, _ => none

def produce (request : Nat) : Option Client :=
  match client.request request with
  | .ready kind =>
      let sq := client.rings.sq
      let client := { client with rings := { client.rings with sq := sq.produce } }
      match (xgqProduce sq.consumed sq.producer).1 with
      | none => some ((client.release request).setRequest request .finished)
      | some _ =>
          some ({ client with
            submissions := client.submissions ++ [request] }.setRequest request
              (.granted kind sq.granted))
  | _ => none

def fill (request : Nat) (payload : Entry) : Option Client :=
  match client.request request with
  | .granted kind submission => do
      let addr := (client.rings.sq.grantAddr submission).toNat
      let entry : Entry := fun offset =>
        if offset < sqCmdSize then sqCmd kind payload offset
        else client.rings.memory (addr + offset)
      let rings ← client.rings.apply (.sq (.fill submission entry))
      return { client with rings }.setRequest request (.filled kind submission)
  | _ => none

def notify (request : Nat) : Option Client :=
  match client.request request with
  | .filled kind submission => do
      let rings ← client.rings.apply (.sq .notifyProduced)
      return { client with rings }.setRequest request (.polling kind submission 0)
  | _ => none

def poll (request : Nat) : Option Client :=
  match client.request request with
  | .polling kind submission polls =>
      let cq := client.rings.cq
      let client := { client with rings := { client.rings with cq := cq.consume } }
      match (xgqConsume cq.produced cq.consumer).1 with
      | some _ => some (client.setRequest request (.taken kind submission cq.taken))
      | none =>
          if polls + 1 < apuXgqTimeout then
            some (client.setRequest request (.polling kind submission (polls + 1)))
          else some ((client.release request).setRequest request .finished)
  | _ => none

def interpret (request : Nat) : Option Client :=
  match client.request request with
  | .taken kind submission completion => do
      let rings ← client.rings.apply (.cq (.read completion))
      return { client with
        rings
        consumed := client.consumed ++ [(request, completion)] }.setRequest request
          (.interpreted kind submission)
  | _ => none

def finish (request : Nat) : Option Client :=
  match client.request request with
  | .interpreted _ _ => do
      let rings ← client.rings.apply (.cq .notifyConsumed)
      return ({ client with rings }.release request).setRequest request .finished
  | _ => none

/-- The APU answers a submission that it has taken and not answered before. -/
def apuAnswer (submission : Nat) : Option Client :=
  if submission < client.rings.sq.taken ∧ submission ∉ client.answers then
    let cq := client.rings.cq
    let client := { client with rings := { client.rings with cq := cq.produce } }
    match (xgqProduce cq.consumed cq.producer).1 with
    | none => some client
    | some _ => some { client with answers := client.answers ++ [submission] }
  else none

def apuMay : RingAction → Bool
  | .consume | .read _ | .notifyConsumed => true
  | _ => false

def apply : ClientAction → Option Client
  | .acquireDownload =>
      if client.semaData = none then
        some { client with semaData := some (.download none) }
      else none
  | .releaseDownload =>
      if client.semaData = some (.download none) then
        some { client with semaData := none }
      else none
  | .begin request kind => client.begin request kind
  | .produce request => client.produce request
  | .fill request payload => client.fill request payload
  | .notify request => client.notify request
  | .poll request => client.poll request
  | .interpret request => client.interpret request
  | .finish request => client.finish request
  | .apuTake action =>
      if apuMay action then do
        let rings ← client.rings.apply (.sq action)
        return { client with rings }
      else none
  | .apuAnswer submission => client.apuAnswer submission
  | .apuFill completion entry => do
      let rings ← client.rings.apply (.cq (.fill completion entry))
      return { client with rings }
  | .apuPublish => do
      let rings ← client.rings.apply (.cq .notifyProduced)
      return { client with rings }

def init (rings : RingPair) : Client where
  rings := rings
  request := fun _ => .unborn
  semaData := none
  submissions := []
  answers := []
  consumed := []

end Client

def clientSystem (layout : XgqLayout) (sqBase cqBase : UInt32) :
    TransitionSystem Client ClientAction where
  init client := ∃ memory, client = .init (.init layout memory sqBase cqBase)
  step client action client' := client.apply action = some client'

end Vmr.Xgq
