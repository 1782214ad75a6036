import MnemonicCode.Bits.Value
import MnemonicCode.File.Tree
import MnemonicCode.Main
import MnemonicCode.Proofs.Bits.Numerals
import MnemonicCode.Proofs.Bits.Representation
import MnemonicCode.Proofs.Bits.Regrouping
import MnemonicCode.Proofs.Phrase.Checksum
import MnemonicCode.Proofs.Phrase.Digits
import MnemonicCode.Proofs.Phrase.LastWord
import MnemonicCode.Proofs.Phrase.Renaming
import MnemonicCode.Proofs.Phrase.Verdict
import MnemonicCode.Proofs.Seed.Spacing
import MnemonicCode.Proofs.Settings.Names
import MnemonicCode.Proofs.CommandLine.Generation
import MnemonicCode.Proofs.CommandLine.Rejections
import MnemonicCode.Proofs.CommandLine.Reorderings
import MnemonicCode.Proofs.CommandLine.Derivations
import MnemonicCode.Proofs.CommandLine.Help
import MnemonicCode.Proofs.CommandLine.Footprint
import MnemonicCode.Proofs.WordList.Complaints
import MnemonicCode.Proofs.WordList.Identity
import MnemonicCode.Proofs.WordList.Messages
