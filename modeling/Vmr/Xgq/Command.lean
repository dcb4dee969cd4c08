import Vmr.Lib.Word
import Vmr.Xgq.Channel

/-!
# Commands and completions of the RPU server

How `cl_xgq_receive.c` reads a submission entry into a `cl_msg_t`, which task
it is for, and what a completion entry looks like.  A submission entry is the
bytes of a slot, in the layout of `xgq_cmd_vmr.h`.
-/

namespace Vmr.Xgq

open Vmr.Lib

/-! ## Bytes of an entry -/

namespace Entry

def word16 (entry : Entry) (offset : Nat) : UInt16 :=
  le16 (entry offset) (entry (offset + 1))

def word32 (entry : Entry) (offset : Nat) : UInt32 :=
  le32 (entry offset) (entry (offset + 1)) (entry (offset + 2)) (entry (offset + 3))

def word64 (entry : Entry) (offset : Nat) : UInt64 :=
  (entry.word32 offset).toUInt64 ||| (entry.word32 (offset + 4)).toUInt64 <<< 32

def bits (entry : Entry) (offset : Nat) (shift width : UInt32) : UInt32 :=
  (entry.word32 offset >>> shift) &&& (1 <<< width - 1)

end Entry

def sqOpcode (entry : Entry) : UInt16 := entry.word16 0

def sqCid (entry : Entry) : UInt16 := entry.word16 4

/-! ## Messages -/

inductive MsgType where
  | unknown | pdi | xclbin | logPage | clock | sensor | apubin | programScfw
  | programVmr | vmrControl | vmrIdentify | clkThrottling
  deriving DecidableEq, Repr

inductive QueueId where
  | program | opcode
  deriving DecidableEq, Repr

structure DataPayload where
  address : UInt32
  size : UInt32
  remainSize : UInt32 := 0
  flashNoBackup : Bool := false
  flashToLegacy : Bool := false
  priv : UInt64
  deriving DecidableEq, Repr

structure LogPayload where
  pid : UInt32
  address : UInt32
  size : UInt32
  offset : UInt32
  deriving DecidableEq, Repr

structure ClockPayload where
  oclRegion : UInt32
  oclReqType : UInt32
  oclReqId : UInt32
  oclReqNum : UInt32
  oclReqFreq : List UInt32
  deriving DecidableEq, Repr

structure SensorPayload where
  sid : UInt32
  address : UInt32
  size : UInt32
  aid : UInt32
  sensorId : UInt32
  deriving DecidableEq, Repr

structure ClkScalingPayload where
  aid : UInt32
  scalingEn : UInt32
  pwrScalingOvrdLimit : UInt32
  tempScalingOvrdLimit : UInt32
  tempOvrdEn : UInt32
  pwrOvrdEn : UInt32
  reset : UInt32
  deriving DecidableEq, Repr

inductive Payload where
  | none
  | data (payload : DataPayload)
  | log (payload : LogPayload)
  | clock (payload : ClockPayload)
  | sensor (payload : SensorPayload)
  | clkScaling (payload : ClkScalingPayload)
  deriving DecidableEq, Repr

structure MultibootPayload where
  reqType : UInt32 := 0
  vmrDebugType : UInt32 := 0
  bootOnBackup : UInt32 := 0
  deriving DecidableEq, Repr

structure ClMsg where
  type : MsgType := .unknown
  cid : UInt16
  rcode : UInt32 := 0
  payload : Payload := .none
  multiboot : MultibootPayload := {}
  deriving DecidableEq, Repr

def rcodeEinval : UInt32 := -22
def rcodeEio : UInt32 := -5

/-! ## Handlers -/

def convertClType (map : List (UInt32 × UInt32)) (xgqType : UInt32) :
    Option UInt32 :=
  (map.find? fun entry => entry.1 == xgqType).map Prod.snd

def xgqCmdClockMap : List (UInt32 × UInt32) := [(0, 1), (1, 2), (2, 3)]

def xgqCmdVmrControlMap : List (UInt32 × UInt32) :=
  [(1, 1), (2, 2), (3, 3), (4, 4), (0, 0), (5, 5)]

def xgqCmdVmrDebugMap : List (UInt32 × UInt32) := [(1, 1), (2, 2), (0, 0)]

def xgqCmdLogPageMap : List (UInt32 × UInt32) :=
  [(0x0, 0x1), (0x3, 0x4), (0x1, 0x2), (0x2, 0x3), (0x4, 0x5), (0x5, 0x6),
    (0x6, 0x7), (0x7, 0x8), (0x8, 0x9), (0x9, 0x10), (0xa, 0xa), (0xb, 0xb),
    (0xc, 0xc)]

def xgqCmdSensorMap : List (UInt32 × UInt32) :=
  [(0x0, 0x0), (0x1, 0xC0), (0x2, 0xC1), (0x3, 0xC2), (0x4, 0xC3), (0x5, 0xC4),
    (0x6, 0xC5), (0x7, 0xFF)]

def xgqCmdClkScalingMap : List (UInt32 × UInt32) := [(1, 1), (2, 2)]

def clVmrEemiSrst : UInt32 := 5

def xclbinHandle (msg : ClMsg) (sq : Entry) : Option ClMsg :=
  some { msg with payload := .data {
    address := (sq.word64 8).toUInt32
    size := sq.word32 16
    remainSize := sq.word32 20
    priv := sq.word64 32 } }

def pdiHandle (msg : ClMsg) (sq : Entry) : Option ClMsg :=
  some { msg with payload := .data {
    address := (sq.word64 8).toUInt32
    size := sq.word32 16
    flashNoBackup := sq.bits 24 4 4 == 1
    flashToLegacy := sq.bits 24 4 4 == 2
    priv := sq.word64 32 } }

def vmrControlHandle (msg : ClMsg) (sq : Entry) : Option ClMsg := do
  let reqType ← convertClType xgqCmdVmrControlMap (sq.bits 8 0 8)
  let vmrDebugType ← convertClType xgqCmdVmrDebugMap (sq.bits 8 11 5)
  return { msg with multiboot := {
    reqType, vmrDebugType, bootOnBackup := sq.bits 8 16 1 } }

def clockHandle (msg : ClMsg) (sq : Entry) : Option ClMsg := do
  let oclReqType ← convertClType xgqCmdClockMap (sq.bits 12 0 8)
  let oclReqNum := sq.bits 12 10 4
  if 4 < oclReqNum then none else
  return { msg with payload := .clock {
    oclRegion := sq.word32 8
    oclReqType
    oclReqId := sq.bits 12 8 2
    oclReqNum
    oclReqFreq := (List.range oclReqNum.toNat).map fun i => sq.word32 (16 + 4 * i) } }

def logPageHandle (msg : ClMsg) (sq : Entry) : Option ClMsg := do
  let pid ← convertClType xgqCmdLogPageMap (sq.bits 24 0 16)
  return { msg with payload := .log {
    pid
    address := (sq.word64 8).toUInt32
    size := sq.word32 16
    offset := sq.word32 20 } }

def sensorHandle (msg : ClMsg) (sq : Entry) : Option ClMsg := do
  let sid ← convertClType xgqCmdSensorMap (sq.bits 24 8 8)
  return { msg with payload := .sensor {
    sid
    address := (sq.word64 8).toUInt32
    size := sq.word32 16
    aid := sq.bits 24 0 8
    sensorId := sq.bits 24 19 8 } }

def clkThrottlingHandle (msg : ClMsg) (sq : Entry) : Option ClMsg := do
  let aid ← convertClType xgqCmdClkScalingMap (sq.bits 8 0 3)
  return { msg with payload := .clkScaling {
    aid
    scalingEn := sq.bits 8 3 1
    pwrScalingOvrdLimit := sq.bits 8 4 16
    tempScalingOvrdLimit := sq.bits 8 20 8
    tempOvrdEn := sq.bits 8 30 1
    pwrOvrdEn := sq.bits 8 29 1
    reset := sq.bits 8 28 1 } }

structure XgqCmdHandler where
  opcode : UInt16
  msgType : MsgType
  qid : QueueId
  msgHandle : ClMsg → Entry → Option ClMsg := fun msg _ => some msg

def xgqCmdHandlers : List XgqCmdHandler :=
  [{ opcode := 0x0, msgType := .xclbin, qid := .program, msgHandle := xclbinHandle },
    { opcode := 0xa, msgType := .pdi, qid := .program, msgHandle := pdiHandle },
    { opcode := 0xd, msgType := .apubin, qid := .program, msgHandle := pdiHandle },
    { opcode := 0x11, msgType := .programVmr, qid := .program,
      msgHandle := xclbinHandle },
    { opcode := 0x8, msgType := .logPage, qid := .opcode, msgHandle := logPageHandle },
    { opcode := 0xb, msgType := .clock, qid := .opcode, msgHandle := clockHandle },
    { opcode := 0xe, msgType := .vmrControl, qid := .opcode,
      msgHandle := vmrControlHandle },
    { opcode := 0xc, msgType := .sensor, qid := .opcode, msgHandle := sensorHandle },
    { opcode := 0xf, msgType := .programScfw, qid := .program },
    { opcode := 0x10, msgType := .clkThrottling, qid := .opcode,
      msgHandle := clkThrottlingHandle },
    { opcode := 0x202, msgType := .vmrIdentify, qid := .opcode }]

/--
`submit_to_queue` up to the send: the message and its queue, or `none` where
the source returns `-EINVAL`.
-/
def submitToQueue (cmd : Entry) : Option (ClMsg × QueueId) := do
  let handler ← xgqCmdHandlers.find? fun handler => handler.opcode == sqOpcode cmd
  let msg ← handler.msgHandle { cid := sqCid cmd, type := handler.msgType } cmd
  return (msg, handler.qid)

def abortMsg (cmd : Entry) : ClMsg := { cid := sqCid cmd, rcode := rcodeEinval }

theorem submitToQueue_cid {cmd : Entry} {msg : ClMsg} {qid : QueueId}
    (h : submitToQueue cmd = some (msg, qid)) : msg.cid = sqCid cmd := by
  have handler_cid : ∀ handler ∈ xgqCmdHandlers, ∀ msg msg' : ClMsg,
      handler.msgHandle msg cmd = some msg' → msg'.cid = msg.cid := by
    intro handler hmem msg msg' hcall
    simp only [xgqCmdHandlers, List.mem_cons, List.not_mem_nil, or_false] at hmem
    rcases hmem with rfl | rfl | rfl | rfl | rfl | rfl | rfl | rfl | rfl | rfl | rfl <;>
      simp only [xclbinHandle, pdiHandle, logPageHandle, clockHandle,
        vmrControlHandle, sensorHandle, clkThrottlingHandle, Option.bind_eq_bind,
        Option.bind_eq_some_iff, Option.pure_def, Option.some.injEq] at hcall
    all_goals grind
  simp only [submitToQueue, Option.bind_eq_bind, Option.bind_eq_some_iff,
    Option.pure_def, Option.some.injEq, Prod.mk.injEq] at h
  obtain ⟨handler, hfind, msg', hcall, rfl, -⟩ := h
  exact handler_cid handler (List.mem_of_find?_eq_some hfind) _ _ hcall

/-! ## Completions -/

/-- The bytes of a completion; `result` and `resvd` are the handler's own words. -/
def cqEntry (msg : ClMsg) (result resvd : UInt32) : Entry := fun offset =>
  if offset < 2 then byteAt msg.cid.toNat offset
  else if offset < 4 then 0
  else if offset < 8 then byteAt result.toNat (offset - 4)
  else if offset < 12 then byteAt resvd.toNat (offset - 8)
  else byteAt msg.rcode.toNat (offset - 12)

def cqCid (entry : Entry) : UInt16 := entry.word16 0

@[simp] theorem cqCid_cqEntry (msg : ClMsg) (result resvd : UInt32) :
    cqCid (cqEntry msg result resvd) = msg.cid := by
  simp [cqCid, Entry.word16, cqEntry]

end Vmr.Xgq
