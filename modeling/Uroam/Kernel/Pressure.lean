import Uroam.Kernel.Netlink

namespace Uroam.Kernel
open Thread

section

variable (env : Env) (input : Option Skb → Kern Unit)

def uroamNotifyPressure (level : PsiPressure) : Kern Unit := do
  lock .stateLock
  modify fun m => { m with globalState := { m.globalState with
    pressureLevel := level
    pressureCount := m.globalState.pressureCount + 1
    lastPressureTime := env.jiffies m.sends } }
  uroamNetlinkSendPressure env input level
  unlock .stateLock

def uroamPsiUpdate (state : Bool) : Kern Unit :=
  uroamNotifyPressure env input (if state then .memoryFull else .memoryNone)

-- What the two averages of the PSI group say; the optimisation after it only prints.
def uroamPressureCheck (someAvail fullAvail : Nat) : Kern Unit := do
  let m ← get
  if m.globalState.enabled then
    if fullAvail = 0 then uroamNotifyPressure env input .memoryFull
    else if someAvail = 0 then uroamNotifyPressure env input .memorySome
    else uroamNotifyPressure env input .memoryNone

end

end Uroam.Kernel
