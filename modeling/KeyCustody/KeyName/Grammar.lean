import KeyCustody.KeyName.Rule

set_option autoImplicit false

namespace KeyCustody

-- `key` names a key that encrypts, `version` a version of a key that signs, and `path` whatever
-- the service accepts where it encrypts and decrypts.
inductive KeyGrammar where
  | key
  | version
  | path
  deriving DecidableEq

namespace KeyGrammar

def fixed (text : String) : List Run :=
  text.toList.map fun c => ⟨.just c, 1, some 0, false⟩

def segment : Run := ⟨.notSlash, 1, none, false⟩

def word : Run := ⟨.word, 1, some 62, false⟩

def line : Run := ⟨.notNewline, 0, none, false⟩

def rule : KeyGrammar → Rule
  | key => ⟨fixed "projects/" ++ [{ segment with marked := true }] ++ fixed "/locations/" ++
      [{ word with marked := true }] ++ fixed "/keyRings/" ++ [word] ++ fixed "/cryptoKeys/" ++ [word]⟩
  | version => ⟨fixed "projects/" ++ [segment] ++ fixed "/locations/" ++ [segment] ++
      fixed "/keyRings/" ++ [segment] ++ fixed "/cryptoKeys/" ++ [segment] ++
      fixed "/cryptoKeyVersions/" ++ [line]⟩
  | path => ⟨fixed "projects/" ++ [segment] ++ fixed "/locations/" ++ [segment] ++
      fixed "/keyRings/" ++ [segment] ++ fixed "/cryptoKeys/" ++ [line]⟩

def written (grammar : KeyGrammar) : String :=
  grammar.rule.written

def accepts (grammar : KeyGrammar) (name : String) : Bool :=
  grammar.rule.accepts name.toList

end KeyGrammar
end KeyCustody
