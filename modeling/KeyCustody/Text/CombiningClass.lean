import KeyCustody.Text.Runs

set_option autoImplicit false

namespace KeyCustody.CombiningClass

def classText : String := "
  Z300 C15.e6 C1.e8 C4.dc C1.e8 C1.d8 C5.dc C2.ca C4.dc C2.ca Cb.dc C5.1 C4.dc C8.e6 C1.f0 C1.e6
  C3.dc C3.e6 C2.dc Z1 C3.e6 C4.dc C1.e6 C1.e8 C2.dc C1.e6 C1.e9 C2.ea C1.e9 C2.ea C1.e9 Cd.e6
  Z113 C5.e6 Z109 C1.dc C4.e6 C1.dc C3.e6 C1.de C1.dc C6.e6 C6.dc C2.e6 C1.dc C2.e6 C1.de C1.e4
  C1.e6 C1.a C1.b C1.c C1.d C1.e C1.f C1.10 C1.11 C1.12 C2.13 C1.14 C1.15 C1.16 Z1 C1.17 Z1 C1.18
  C1.19 Z1 C1.e6 C1.dc Z1 C1.12 Z48 C8.e6 C1.1e C1.1f C1.20 Z30 C1.1b C1.1c C1.1d C1.1e C1.1f
  C1.20 C1.21 C1.22 C2.e6 C2.dc C5.e6 C1.dc C2.e6 C1.dc Z10 C1.23 Z65 C7.e6 Z2 C4.e6 C1.dc C1.e6
  Z2 C2.e6 Z1 C1.dc C2.e6 C1.dc Z23 C1.24 Z1e C1.e6 C1.dc C2.e6 C1.dc C2.e6 C3.dc C1.e6 C2.dc
  C1.e6 C1.dc C3.e6 C1.dc C1.e6 C1.dc C1.e6 C1.dc C1.e6 C1.dc C2.e6 Za0 C7.e6 C1.dc C1.e6 Z9 C1.dc
  Z18 C4.e6 Z1 C9.e6 Z1 C3.e6 Z1 C5.e6 Z2b C3.dc Z3b C2.e6 C3.dc C4.e6 Z2a C5.e6 C5.dc Ce.e6 Z1
  C1.dc C2.e6 C1.dc C2.e6 C1.dc C3.e6 C3.dc C1.1b C1.1c C1.1d C3.e6 C1.dc C2.e6 C2.dc C5.e6 Z3c
  C1.7 Z10 C1.9 Z3 C1.e6 C1.dc C2.e6 Z67 C1.7 Z10 C1.9 Z30 C1.e6 Z3d C1.7 Z10 C1.9 Z6e C1.7 Z10
  C1.9 Z6e C1.7 Z10 C1.9 Z7f C1.9 Z6e C1.7 Z10 C1.9 Z7 C1.54 C1.5b Z65 C1.7 Z10 C1.9 Z6d C2.9 Z10
  C1.9 Z7c C1.9 Z6d C2.67 C1.9 Zd C4.6b Z6c C2.76 C1.9 Zd C4.7a Z4c C2.dc Z1b C1.dc Z1 C1.dc Z1
  C1.d8 Z37 C1.81 C1.82 Z1 C1.84 Z5 C4.82 Z2 C1.82 Z1 C2.e6 C1.9 Z1 C2.e6 Z3e C1.dc Z70 C1.7 Z1
  C2.9 Z52 C1.dc Z2cf C3.e6 Z3b4 C2.9 Z1e C1.9 Z9d C1.9 Za C1.e6 Zcb C1.e4 Z8f C1.de C1.e6 C1.dc
  Zdb C1.e6 C1.dc Z47 C1.9 Z14 C8.e6 Z2 C1.dc Z30 C5.e6 C6.dc C2.e6 C1.dc Z1 C2.dc C2.e6 C2.dc
  C5.e6 C1.dc C12.e6 C1.dc Z2 C6.e6 C1.dc C4.e6 C1.ea Z48 C1.7 Zf C1.9 Z26 C1.e6 C1.dc C7.e6 Z36
  C2.9 Z3a C1.7 Zb C2.9 Z43 C1.7 Z98 C3.e6 Z1 C1.1 C5.dc C2.e6 C4.dc C1.e6 Z1 C7.1 Z4 C1.dc Z6
  C1.e6 Z3 C2.e6 Zc6 C2.e6 C1.dc C7.e6 C1.dc C2.e6 C1.ea C1.d6 C1.dc C1.ca C25.e6 C1.e8 C2.e4
  C1.dc C1.da C1.e6 C1.e9 C1.dc C1.e6 C1.dc Z2d0 C2.e6 C2.1 C4.e6 C3.1 C2.e6 Z4 C1.e6 Z3 C2.1
  C1.e6 C1.dc C1.e6 C2.1 C4.dc C1.e6 Zbfe C3.e6 Z8d C1.9 Z60 C20.e6 Z22a C1.da C1.e4 C1.e8 C1.de
  C2.e0 Z69 C2.8 Z75d4 C1.e6 Z4 Ca.e6 Z20 C2.e6 Z50 C2.e6 Z114 C1.9 Z25 C1.9 Z97 C1.9 Z1b C12.e6
  Z39 C3.dc Z25 C1.9 Z5f C1.7 Zc C1.9 Zef C1.e6 Z1 C2.e6 C1.dc Z2 C2.e6 Z5 C2.e6 Z1 C1.e6 Z34 C1.9
  Zf6 C1.9 Z4f30 C1.1a Z301 C7.e6 C7.dc C2.e6 Z3cd C1.dc Ze2 C1.dc Z95 C5.e6 Z692 C1.dc Z1 C1.e6
  Z28 C1.e6 C1.1 C1.dc Z4 C1.9 Za5 C1.e6 C1.dc Z23d C4.e6 Z41 C5.e6 Z13d C2.e6 Z4d C2.dc Z1 C3.dc
  Z46 C2.dc C3.e6 C1.dc C1.e6 C4.dc Z31 C1.e6 C1.dc C1.e6 C1.dc Zc0 C1.9 Z29 C1.9 Ze C1.9 Z39 C1.9
  C1.7 Z45 C3.e6 Z30 C2.9 Z3e C1.7 Z4c C1.9 Z9 C1.7 Z6a C1.9 C1.7 Zb2 C1.7 C1.9 Z50 C2.7 Z10 C1.9
  Z18 C7.e6 Z3 C5.e6 Z59 C3.9 Z71 C1.9 Z3 C1.7 Z17 C1.e6 Z63 C1.9 C1.7 Zfb C1.9 C1.7 Z7e C1.9 Z76
  C1.9 C1.7 Z73 C1.9 Z10d C1.9 C1.7 Z102 C2.9 Z4 C1.7 Z9c C1.9 Z53 C1.9 Z12 C1.9 Z51 C1.9 Z1a5
  C1.9 Z102 C1.7 Z1 C2.9 Z51 C1.9 Z1a9 C2.9 Z41ec C1.9 Z9c0 C5.1 Z3b C7.e6 Z4b9 C2.6 Z4cac C1.1
  Z14c6 C2.d8 C3.1 Z3 C1.e2 C5.d8 Z8 C8.dc Z2 C5.e6 C2.dc Z1e C4.e6 Z94 C3.e6 Zdbb C7.e6 Z1 C11.e6
  Z2 C7.e6 Z1 C2.e6 Z1 C5.e6 Z64 C1.e6 Za0 C7.e6 Z177 C1.e6 Z3d C4.e6 Z1fc C2.e8 C1.dc C1.e6 Zfe
  C1.e6 C1.dc Zf3 C1.e6 Z2 C1.e6 Z7 C2.e6 Z5 C1.e6 Z1da C7.dc Z6d C6.e6 C1.7 Zf16b5"

def classRuns : Runs Nat :=
  .ofText (fun run => run.numbers.headD 0) classText

def classOf (c : Char) : Nat :=
  (classRuns.value? c).getD 0

def virama : Nat := 9

end KeyCustody.CombiningClass
