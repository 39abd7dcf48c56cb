import AuditTrail.Moment
import AuditTrail.Path

/-! Names of backups. The backup of a log stands beside it, under its name, a dot and the second of
its creation in decimal digits. -/
namespace AuditTrail.Backup

def point : UInt8 := 0x2E

def decimal (n : Nat) : Bytes := Utf8.encode (toString n)

def path (live : Path) (timestamp : Nat) : Path := ⟨live.bytes ++ point :: decimal timestamp⟩

def isDigit (b : UInt8) : Bool := 0x30 ≤ b && b ≤ 0x39

def value (digits : Bytes) : Nat := digits.foldl (fun n b => n * 10 + (b.toNat - 0x30)) 0

def after? (lead name : Bytes) : Option Bytes :=
  if lead.isPrefixOf name then some (name.drop lead.length) else none

/-- The second in the name of a backup of the log named `base`. -/
def timestamp? (base name : Bytes) : Option Nat :=
  (after? (base ++ [point]) name).bind fun digits =>
    if !digits.isEmpty && digits.all isDigit && value digits < UInt64.size then some (value digits)
    else none

def dir (live : Path) : Path :=
  match live.parent? with
  | some parent => if parent.bytes.isEmpty then ⟨[Path.dot]⟩ else parent
  | none => ⟨[Path.dot]⟩

/-- The age of a backup, unless it is in the future or its second is out of range. -/
def age? (timestamp : Nat) (now : Moment) : Option Duration :=
  if timestamp < 9223372036854775808 ∧ (timestamp : Int) * 1000000000 ≤ now.nanos then
    Duration.ofNanos? (now.nanos - timestamp * 1000000000).toNat
  else none

end AuditTrail.Backup
