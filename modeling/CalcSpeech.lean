import CalcSpeech.Proofs.Language.Alike
import CalcSpeech.Language.PackJson
import CalcSpeech.Main
import CalcSpeech.Proofs.NumberName.English
import CalcSpeech.Proofs.ScaleNumber.Exact
import CalcSpeech.Proofs.ScaleNumber.Addend
import CalcSpeech.Proofs.Written.Grouping
import CalcSpeech.Proofs.Operator.Phrases
import CalcSpeech.Proofs.Point.Reading
import CalcSpeech.Proofs.Session.Identity
import CalcSpeech.Proofs.Service.Locale
import CalcSpeech.Proofs.Fraction.Value
import CalcSpeech.Proofs.ScaleNumber.Connector
import CalcSpeech.Proofs.ScaleNumber.Chain
import CalcSpeech.Proofs.Fraction.Unknown
import CalcSpeech.Proofs.NumberWord.Rounds
import CalcSpeech.Proofs.NumberWord.Split
import CalcSpeech.Proofs.Percent.Rebuilt
import CalcSpeech.Proofs.Expression.Conserved
import CalcSpeech.Proofs.Written.Digits
import CalcSpeech.Proofs.Transcript.Prepared
import CalcSpeech.Proofs.Language.Resolved
import CalcSpeech.Proofs.Language.Directory
import CalcSpeech.Proofs.Language.PackText
import CalcSpeech.Proofs.Log.Usable
import CalcSpeech.Proofs.NumberWord.Registers
import CalcSpeech.Proofs.Vocabulary.Longest
