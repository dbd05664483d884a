import OpenDiag.Kline.Task

/-!
# Transmitting a message

`tx_once` from its admission on: each byte is written and waited for, and the transceiver's echo of
what was sent is read back from the cursor, both from the handler of data notifications and from the
collector. The bus worker's note of the end of the transmission is left out.
-/

namespace OpenDiag.Kline

/-- `BUS_ERR_TX_FAILED`. -/
def errTxFailed : Int := -5

/-- `BUS_ERR_ECHO`. -/
def errEcho : Int := -6

/-- `KLINE_UART_TIMEOUT_MS`, in microseconds. -/
def uartTimeoutUs : Nat := 100000

/-- `tx_collect_echo`, with its wait in microseconds. -/
def Task.txCollectEcho (g : Task) (wait : Nat) : Int × Task :=
  let g := g.uartEvents
  let g :=
    if g.tx.any fun tx => !tx.failed && tx.echoed < tx.sent then
      let g := (g.uartFill wait).2.uartEvents
      g.txReadEcho ((g.tx.map (·.sent)).getD 0)
    else g
  (if g.tx.any (·.failed) then errEcho else 0, g)

/-- Milliseconds to ticks: a tick is a millisecond. -/
def ticksUs (left : Int) : Nat := max 1 ((left + 999) / 1000).toNat * 1000

/-- `tx_finish_echo`'s loop; `none` is a loop that still waits. -/
def Task.finishLoop (deadline : Int) : Nat → Task → Option (Int × Task)
  | 0, _ => none
  | rounds + 1, g =>
    let (rc, g) := g.txCollectEcho 0
    if rc ≠ 0 ∨ g.tx.any (fun tx => tx.echoed = tx.sent) then some (rc, g)
    else
      let (now, g) := g.nowUs
      let left := deadline - now
      if left ≤ 0 then
        let missing := (g.tx.map fun tx => tx.sent - tx.echoed).getD 0
        some (errEcho, { g with
          stats := { g.stats with txEchoMissing := g.stats.txEchoMissing + missing } })
      else
        let (rc, g) := g.txCollectEcho (ticksUs left)
        if rc ≠ 0 then some (rc, g) else Task.finishLoop deadline rounds g

/-- `tx_finish_echo`. A round ends the loop, reads a byte of the echo or lasts a microsecond. -/
def Task.txFinishEcho (g : Task) : Option (Int × Task) :=
  let deadline := g.txEndUs + uartTimeoutUs
  let missing := (g.tx.map fun tx => tx.sent - tx.echoed).getD 0
  g.finishLoop deadline (missing + (deadline - g.clock).toNat + 1)

/-- `delay_until_us`. -/
def Task.delayUntil (g : Task) (time : Int) : Task :=
  let g := g.observe.2
  { g with clock := max g.clock time }.arrive

/-- `tx_once`'s loop. `none` stands for its return when a byte does not leave the UART. -/
def Task.sendBytes : List UInt8 → Task → Option Int × Task
  | [], g => (some 0, g)
  | _ :: rest, g =>
    let (rc, g) := g.txCollectEcho 0
    if rc ≠ 0 then (some rc, g)
    else
      let (moment, g) := g.observe
      if moment.refuses then (some errTxFailed, g)
      else
        let (moment, g) := g.observe
        if moment.stuck then (none, { g with uartTxUnresolved := true, tx := none })
        else
          let (now, g) := g.nowUs
          let g :=
            { g with
              txEndUs := now
              lastBusUs := now
              tx := g.tx.map fun tx => { tx with sent := tx.sent + 1 }
              stats := { g.stats with txBytes := g.stats.txBytes + 1 } }
          let g := if rest.isEmpty then g else g.delayUntil (now + pToUs g.cfg.p4Min)
          Task.sendBytes rest g

/-- `tx_once`, up to the transmit boundary: what was received by now predates the request. -/
def Task.txBegin (g : Task) (buf : List UInt8) (clearRxQueue : Bool) : Task :=
  let g := if clearRxQueue then { g with rxQ := [] } else g
  { g.uartEvents.rxDiscard with pendingStatus := 0, tx := some { data := buf } }

/-- `tx_once`, from its admission. -/
def Task.txOnce (g : Task) (buf : List UInt8) (clearRxQueue : Bool) : Option (Int × Task) :=
  match (g.txBegin buf clearRxQueue).sendBytes buf with
  | (none, g) => some (errTxFailed, g)
  | (some rc, g) => do
    let (rc, g) ← if rc = 0 then g.txFinishEcho else some (rc, g)
    let g := { g with tx := none }
    let g := if rc ≠ 0 then g.rxDiscard else g
    some (rc, { g with p2Pending := rc == 0, txAnswered := false })

end OpenDiag.Kline
