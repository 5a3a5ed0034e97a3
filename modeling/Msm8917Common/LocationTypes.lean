/-! What `LocationAPI.h` defines for its clients and its adapters alike. -/
namespace Msm8917Common.Location

inductive LocationError where
  | success | generalFailure | callbackMissing | invalidParameter | idExists | idUnknown
  | alreadyStarted | geofencesAtMax | notSupported
  deriving DecidableEq, Repr

end Msm8917Common.Location
