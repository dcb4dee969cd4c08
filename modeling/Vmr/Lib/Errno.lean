import Mathlib.Init

/-!
# Error numbers

A function that fails returns one of them with the sign changed.
-/

namespace Vmr.Lib

def enoent : Int := 2
def eio : Int := 5
def enomem : Int := 12
def ebusy : Int := 16
def enodev : Int := 19
def einval : Int := 22

end Vmr.Lib
