import Mathlib.Algebra.Order.Ring.Rat

set_option autoImplicit false

namespace HypercoreAgent

/-- What `psutil` reports on this host: whether it imports, and the `percent` of
    `virtual_memory()` and of `disk_usage(path)`, or the `str(e)` of what they raise. -/
structure Host where
  psutilInstalled : Bool
  virtualMemory : Except String ℚ
  diskUsage : String → Except String ℚ

/-- The second key of a check's dict. -/
inductive CheckDetail
  | message (text : String)
  | usagePercent (value : ℚ)
  deriving DecidableEq, Repr

structure CheckResult where
  status : String
  detail : CheckDetail
  deriving DecidableEq, Repr

def checkApi : CheckResult := ⟨"pass", .message "API responsive"⟩

def checkUsage (host : Host) (read : Host → Except String ℚ) : CheckResult :=
  if host.psutilInstalled then
    match read host with
    | .ok usagePercent =>
      if usagePercent > 90 then ⟨"warn", .usagePercent usagePercent⟩
      else ⟨"pass", .usagePercent usagePercent⟩
    | .error message => ⟨"fail", .message message⟩
  else ⟨"skip", .message "psutil not available"⟩

def checkMemory (host : Host) : CheckResult := checkUsage host (·.virtualMemory)

def checkDisk (host : Host) : CheckResult := checkUsage host (·.diskUsage "/")

structure HealthCheck where
  startTime : ℤ
  lastCheck : ℤ
  checkCount : ℕ
  deriving DecidableEq, Repr

def HealthCheck.init (now : ℤ) : HealthCheck := ⟨now, now, 0⟩

structure HealthStatus where
  status : String
  version : String
  uptimeSeconds : ℤ
  checks : List (String × CheckResult)
  deriving DecidableEq, Repr

def HealthCheck.check (hc : HealthCheck) (host : Host) (now : ℤ) :
    HealthCheck × HealthStatus :=
  let hc := { hc with checkCount := hc.checkCount + 1, lastCheck := now }
  let checks := [("api", checkApi), ("memory", checkMemory host), ("disk", checkDisk host)]
  let allHealthy := checks.all fun check => check.2.status == "pass"
  (hc, ⟨if allHealthy then "healthy" else "degraded", "1.0.0", now - hc.startTime, checks⟩)

inductive HealthBody
  | report (status : HealthStatus)
  | unhealthy (error : String)
  deriving DecidableEq, Repr

structure HealthResponse where
  statusCode : ℕ
  body : HealthBody
  deriving DecidableEq, Repr

def noHealthCheckError : String := "\x27NoneType\x27 object has no attribute \x27check\x27"

def health (healthCheck : Option HealthCheck) (host : Host) (now : ℤ) :
    Option HealthCheck × HealthResponse :=
  match healthCheck with
  | none => (none, ⟨503, .unhealthy noHealthCheckError⟩)
  | some hc =>
    let (hc, status) := hc.check host now
    (some hc, ⟨if status.status = "healthy" then 200 else 503, .report status⟩)

end HypercoreAgent
