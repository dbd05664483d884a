/-!
# The K-Line driver and pin 15

`kline_open`, `kline_close`, `kline_release` and the K-Line-only parameter of `kline.c`, as far as
they decide whether the driver succeeds and when it writes the low side driver of pin 15, which it
shares with the programming voltage. The driver switches pin 15 off and never on here: it is on
only within an initialisation.
-/

namespace OpenDiag.Vif

/-- The driver's static state, all zero before the first open. -/
structure Kline where
  apiLock : Bool := false
  dataLock : Bool := false
  started : Bool := false
  task : Bool := false
  uartInstalled : Bool := false
  kLineOnly : Bool := false
  deriving DecidableEq, Repr

/-- What the system grants the driver during one call. -/
structure Grant where
  /-- `bus_tx_worker_close` sees its worker exit. -/
  workerExits : Bool := true
  /-- The answer of a driver that is not modelled further. -/
  driverOk : Bool := true
  /-- Whether a driver call that fails leaves the driver up. -/
  leftUp : Bool := false
  apiLock : Bool := true
  dataLock : Bool := true
  /-- `uart_driver_install`. -/
  install : Bool := true
  /-- Everything behind it, up to the receive task. -/
  setUp : Bool := true
  /-- The receive task exits in time. -/
  taskExits : Bool := true
  /-- `uart_driver_delete`. -/
  delete : Bool := true
  /-- A command or an initialisation blocks the parameter. -/
  blocked : Bool := false
  deriving DecidableEq, Repr

/-- A call's effect: the driver after it, whether it succeeded, whether it switched pin 15 off. -/
structure KlineCall where
  after : Kline
  ok : Bool
  cutsPin15 : Bool
  deriving DecidableEq, Repr

/-- `kline_release`. -/
def Kline.release (k : Kline) (g : Grant) : KlineCall :=
  if k.uartInstalled && !g.delete then ⟨k, false, !k.kLineOnly⟩
  else ⟨{ k with uartInstalled := false }, true, !k.kLineOnly⟩

/-- `kline_open`. -/
def Kline.open (k : Kline) (g : Grant) : KlineCall :=
  if k.started then ⟨k, true, false⟩
  else
    let k := { k with apiLock := k.apiLock || g.apiLock, dataLock := k.dataLock || g.dataLock }
    if !(k.apiLock && k.dataLock) then ⟨k, false, false⟩
    else if k.task || k.uartInstalled then ⟨k, false, false⟩
    else
      -- cfg_defaults
      let k := { k with kLineOnly := true }
      if !g.install then { k.release g with ok := false }
      else
        let k := { k with uartInstalled := true }
        if !g.setUp then { k.release g with ok := false }
        else ⟨{ k with task := true, started := true }, true, false⟩

/-- `kline_close`. -/
def Kline.close (k : Kline) (g : Grant) : KlineCall :=
  if !k.apiLock then ⟨k, true, false⟩
  else
    let k := { k with started := false }
    if k.task && !g.taskExits then ⟨k, false, false⟩
    else Kline.release { k with task := false } g

/-- `kline_set_param(BUS_P_K_LINE_ONLY, value)`. -/
def Kline.setOnly (k : Kline) (value : Bool) (g : Grant) : KlineCall :=
  if !k.started then ⟨k, false, false⟩
  else if g.blocked then ⟨k, false, false⟩
  else if k.kLineOnly ≠ value then ⟨{ k with kLineOnly := value }, true, true⟩
  else ⟨k, true, false⟩

/-- Nothing of the driver is left running. -/
def Kline.Idle (k : Kline) : Prop :=
  k.started = false ∧ k.task = false ∧ k.uartInstalled = false

/-- An open has got as far as the driver's configuration. -/
def Kline.configured (k : Kline) : Bool :=
  k.apiLock && k.dataLock

/-- The driver takes pin 15 for its own. -/
def Kline.Loose (k : Kline) : Prop :=
  k.kLineOnly = false ∧ k.configured = true

section Calls

variable {k : Kline} {g : Grant}

/-- A start from rest sets the driver to the K-Line alone, or does not get that far. -/
theorem Kline.open_of_idle (idle : k.Idle) :
    ¬ (k.open g).after.Loose ∧ (k.open g).cutsPin15 = false := by
  obtain ⟨stopped, noTask, noUart⟩ := idle
  simp only [Kline.open, stopped, noTask, noUart, Kline.release, Kline.Loose, Kline.configured]
  grind

/-- The driver runs only once it has its locks. -/
theorem Kline.open_sound (sound : k.Idle ∨ k.configured = true) :
    (k.open g).after.Idle ∨ (k.open g).after.configured = true := by
  simp only [Kline.Idle, Kline.configured, Kline.open, Kline.release] at sound ⊢
  grind

/-- A close leaves the driver idle, or configured as it was. -/
theorem Kline.close_sound (sound : k.Idle ∨ k.configured = true) :
    (k.close g).after.Idle ∨ (k.close g).after.configured = true := by
  simp only [Kline.Idle, Kline.configured, Kline.close, Kline.release] at sound ⊢
  grind

/-- A close that succeeds leaves it idle. -/
theorem Kline.close_idle (sound : k.Idle ∨ k.configured = true) (ok : (k.close g).ok = true) :
    (k.close g).after.Idle := by
  simp only [Kline.Idle, Kline.configured, Kline.close, Kline.release] at sound ok ⊢
  grind

/-- A close leaves the parameter of the driver alone. -/
theorem Kline.close_loose : (k.close g).after.Loose ↔ k.Loose := by
  simp only [Kline.Loose, Kline.configured, Kline.close, Kline.release]
  grind

/-- A close switches pin 15 off only where the driver took it for its own. -/
theorem Kline.close_cuts (cuts : (k.close g).cutsPin15 = true) :
    k.apiLock = true ∧ k.kLineOnly = false := by
  simp only [Kline.close, Kline.release] at cuts
  grind

variable {value : Bool}

/-- A change of the parameter starts and stops nothing. -/
theorem Kline.setOnly_sound (sound : k.Idle ∨ k.configured = true) :
    (k.setOnly value g).after.Idle ∨ (k.setOnly value g).after.configured = true := by
  simp only [Kline.Idle, Kline.configured, Kline.setOnly] at sound ⊢
  grind

/-- A parameter that was accepted is set. -/
theorem Kline.setOnly_ok (ok : (k.setOnly value g).ok = true) :
    (k.setOnly value g).after.kLineOnly = value := by
  simp only [Kline.setOnly] at ok ⊢
  grind

/-- A parameter that was refused leaves the driver as it was. -/
theorem Kline.setOnly_failed (failed : (k.setOnly value g).ok = false) :
    (k.setOnly value g).after = k := by
  simp only [Kline.setOnly] at failed ⊢
  grind

/-- The parameter is changed: the L-line is being enabled, or it was enabled. -/
theorem Kline.setOnly_cuts (sound : k.Idle ∨ k.configured = true)
    (cuts : (k.setOnly value g).cutsPin15 = true) : value = false ∨ k.Loose := by
  simp only [Kline.Idle, Kline.Loose, Kline.configured, Kline.setOnly] at sound cuts ⊢
  grind

end Calls

end OpenDiag.Vif
