import KeyCustody.Text.Runs

set_option autoImplicit false

namespace KeyCustody

inductive Direction where
  | leftToRight
  | rightToLeft
  | arabicLetter
  | arabicNumber
  | europeanNumber
  | mark
  | inner
  | other
  deriving DecidableEq

namespace Direction

-- Runs named for the classes of the bidirectional algorithm, of the characters that may stand in
-- a label; a run covers other code points up to the next one.
def directionText : String := "
  BN9 S1 B1 S1 WS1 B1 BNe B3 S1 WS1 ON2 ET3 ON5 ES1 CS1 ES1 CS2 ENa CS1 ON26 L1a ON4 BN22 ON1 ET4
  ONa ET6 ON29 L18 ON1 L1c1 ON2 L7 ONe L2 ON1c L1 ON11 NSM71 L4 ON2 L7f ON2 L8b NSM8 Lff ON5 ET2
  NSM2d R1 NSM1 R1 NSM2 R1 NSM2 R1 NSM9 R36 ON2 AL1 ET2 AL1 CS1 AL1 ON2 NSMb AL30 NSM15 ANa ET1
  AN2 AL3 NSM1 AL65 NSM8 ON1 NSM6 AL2 NSM2 ON1 NSM4 AL2 ENa AL17 NSM1 AL1e NSM1d AL59 NSMb ALf R2b
  NSM9 R2 ON4 R3 NSM1 R18 NSM4 R1 NSM9 R1 NSM3 R1 NSM7 R29 NSM5 R2 AL37 NSM9 AL2a NSM39 L37 NSM1
  L1 NSM1 L4 NSM8 L4 NSM1 L3 NSMf L2 NSM2 L1d NSM1 L3a NSM1 L4 NSM6 L6 NSM1 L14 NSM4 Lc ET2 L7 ET1
  L2 NSM5 L39 NSM2 L3 NSM1b L14 NSM2 L3 NSM1 Lb NSM2 L39 NSM1 L4 NSM8 L4 NSM3 L12 NSM4 Lb ET8 L1
  NSM8 L3a NSM1 L2 NSM1 L1 NSM6 L6 NSMa Lb NSM4 L1c NSM1 L3d NSM1 Lc NSM3 L23 ON6 ET1 ON6 NSM1 L3
  NSM1 L37 NSM1 L1 NSM3 L5 NSM12 La NSM4 L12 ON7 L2 NSM1 L3a NSM1 Lf NSM9 Ld NSM4 L1a NSM2 L39
  NSM2 L4 NSM5 L7 NSM1 L14 NSM4 L1b NSM1 L48 NSM5 L3 NSM6 L59 NSM1 L2 NSMb ET1 L7 NSM8 L62 NSM1 L2
  NSM9 Lb NSM8 L48 NSM2 L1b NSM1 L1 NSM1 L1 NSM1 ON4 L33 NSMe L1 NSM5 L1 NSM2 L5 NSM31 L8 NSM1 L66
  NSM4 L1 NSM6 L1 NSM2 L2 NSM2 L19 NSM2 L4 NSM3 L10 NSM4 Ld NSM1 L2 NSM2 L6 NSM1 Lf NSM1 L2bf NSM3
  L30 ON10 L60 ON1 L29a ON5 L72 NSM3 L1d NSM2 L1e NSMe L12 NSMe L37 NSM7 L8 NSM1 L2 NSMb L7 ET1 L1
  NSM3 L10 ON20 L75 NSM2 L22 NSM1 L76 NSM3 L4 NSM2 L9 NSM1 L6 NSM7 ON6 L98 ON22 L17 NSM2 L2 NSM3
  L38 NSM1 L1 NSM9 L1 NSM1 L2 NSM8 L6 NSMd L30 NSM54 L30 NSM1 L1 NSM5 L1 NSM1 L5 NSM1 L28 NSM9 Lc
  NSM2 L20 NSM4 L2 NSM2 L1 NSM3 L38 NSM1 L1 NSM2 L3 NSM1 L1 NSM3 L3a NSM8 L2 NSM5 L95 NSM3 L1 NSMd
  L1 NSM7 L4 NSM1 L6 NSM1 L3 NSM2 Lc6 NSM41 L20b BN4 ON20 ET5 ONf CS1 ON5b ET30 NSM34 ON2a ETc
  ON14 L3c ON88 ES1 ET1 ON122 L45 ON1a L1 ON316 L1 ON153 L100 ON330 Lb5 ON7 L3 NSM4 L6 ON7 L7f
  NSM1 L60 NSM20 ON205 L3 ON19 L9 NSM4 L2 ON1 L6 ON4 L2 ON4 L58 NSM4 L3 ON1 L5a ON1 Lc4 ON30 L1bd0
  ON40 L5690 ON40 L13d ON3 L5f NSM4 ON1 NSMa ON3 L1d NSM2 L50 NSM2 Le ON23 L65 ON1 L79 NSM1 L3
  NSM1 L4 NSM1 L19 NSM2 L1 ON4 NSM4 L8 ET8 L34 ONc L44 NSMa L12 NSM12 Ld NSM1 L26 NSM8 L19 NSMb
  L2e NSM3 L30 NSM1 L2 NSM4 L2 NSM2 L27 NSM1 L43 NSM6 L2 NSM2 L2 NSMb L3 NSM1 L8 NSM1 L2f NSM1 L33
  NSM1 L1 NSM3 L2 NSM2 L5 NSM2 L1 NSM1 L2a NSM2 L8 NSMb L69 ON56 L25 NSM1 L2 NSM1 L4 NSM3 L4f2e
  NSM94 AL11 ON25d NSM25 ON2e AL18d L101 ON1 L3e ON4d L3 ON40 L2d NSM83 L60 NSM1 EN1f L76 NSMa
  L480 R11f ON1 Re1 NSMf R28 NSM8 Ra5 NSM6 R4e ON7 R1c0 AL24 NSMc AN10 R29 NSM5 ON1 Rf1 AN20 R2b
  NSM2 R15 ALe ON2a NSM6 R30 AL16 NSMb AL1f R12 NSM4 R7a L1 NSM1 L36 NSMf Lb ON14 La NSM1 L2 NSM2
  La NSM3 L31 NSM4 L2 NSM2 L7 NSMe L30 NSM3 L24 NSM5 L1 NSM9 L3d NSM1 Lc NSM2 L34 NSM9 La NSM4 L2
  NSM1 L5f NSM3 L2 NSM1 L1 NSM2 L6 NSM1 L2 NSM3f L5f NSM1 L3 NSMd L10 NSM2 L39 NSM2 L3 NSM1 L25
  NSM1a L3b NSM7 Lc NSM1 L1 NSM1 L1 NSM1 Le NSM1f L38 NSM8 L2 NSM3 L1 NSM1 L17 NSM1 L54 NSM6 L1
  NSM1 L4 NSM2 L1 NSM2 Lee NSM6 L4 NSM2 L1 NSM2 L1b NSM24 L33 NSM8 L2 NSM1 L1 NSM2 L1f ON20 L2b
  NSM1 L1 NSM1 L2 NSM6 L1 NSM1 L65 NSM3 L2 NSM4 L1 NSM9 Lff NSM9 L1 NSM2 L100 NSM2 L1 NSM1 L4 NSM1
  L90 NSM8 L4 NSM1 L20 NSM6 L2 NSM2 L28 NSM6 L2 NSM4 L8 NSM9 L1 NSM6 L2 NSM3 L2e NSMd L1 NSM2 Lc6
  NSM1 L1 NSM3 L1 NSM1 Lc9 NSMe L54 NSM17 L1 NSM7 L1 NSM2 L1 NSM4b L31 NSM15 L1 NSM9 L40 NSM3 L2
  NSM1 L1 NSM1 L15b NSM2 Lb NSM2 L34 NSM8 L2 NSM1 L1 NSM1 L17 NSM56 L25 ON8 ET4 ON1e L1441 NSM1 L6
  NSM19 L2cbe NSMc L3 NSM3 L9c0 NSM5 L3b NSM7 L418 NSM1 L3f NSM4 L4f ON1 L1 NSMc L4cad NSM2 Lf61
  ON300 NSM50 L217 NSM3 L11 NSM8 L2 NSM7 L1e NSM4 L3b ON59 NSM3 ON7b L40 ON60 L6a0 NSM37 L4 NSM32
  L8 NSM1 Le NSM1 L16 NSM465 L100 NSM100 L30 NSM7 L177 NSM12 L2c NSM4 Lf ET1d1 L1c NSM4 Lfe NSM2
  Lf3 NSM1 L2 NSM1 L7 NSM2 L5 NSM9 L102 Rd0 NSM52 R22 NSM7 R326 AL27f ON260 L1d ON3 L3d ON39 L7a
  ONda0 Lf0000"

def ofName : String → Direction
  | "L" => leftToRight
  | "R" => rightToLeft
  | "AL" => arabicLetter
  | "AN" => arabicNumber
  | "EN" => europeanNumber
  | "NSM" => mark
  | "ES" | "CS" | "ET" | "ON" | "BN" => inner
  | _ => other

def runs : Runs Direction :=
  .ofText (fun run => ofName run.name) directionText

def ofChar (c : Char) : Direction :=
  (runs.value? c).getD other

def isStrongRight : Direction → Bool
  | rightToLeft | arabicLetter => true
  | _ => false

def turns (c : Char) : Bool :=
  isStrongRight (ofChar c) || ofChar c = arabicNumber

def withoutEndMarks (directions : List Direction) : List Direction :=
  (directions.reverse.dropWhile (· = mark)).reverse

def keepsLeft (tail : List Direction) : Bool :=
  let trimmed := withoutEndMarks tail
  let among (d : Direction) : Bool := d = leftToRight || d = europeanNumber
  (trimmed.getLast?.all among) && trimmed.all fun d => among d || d = inner || d = mark

def keepsRight (tail : List Direction) : Bool :=
  let trimmed := withoutEndMarks tail
  let among (d : Direction) : Bool := isStrongRight d || d = europeanNumber || d = arabicNumber
  (trimmed.getLast?.all among) && (trimmed.all fun d => among d || d = inner || d = mark) &&
    !(trimmed.contains europeanNumber && trimmed.contains arabicNumber)

def keeps (label : List Char) : Bool :=
  match label.map ofChar with
  | [] => true
  | leftToRight :: tail => keepsLeft tail
  | first :: tail => isStrongRight first && keepsRight tail

end Direction
end KeyCustody
