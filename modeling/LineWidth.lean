import LineWidth.CommandLine.Run
import LineWidth.FileTree.Write
import LineWidth.Main
import LineWidth.Proofs.BareTokens
import LineWidth.Proofs.Concatenation
import LineWidth.Proofs.TokenRegions
import LineWidth.Token.SignedWidth
import LineWidth.Proofs.LineEnds
import LineWidth.Proofs.DocComments
import LineWidth.Proofs.LimitOrder
import LineWidth.Proofs.SettingsMapping
import LineWidth.Proofs.Utf8
import LineWidth.Proofs.SettingsFile
import LineWidth.Proofs.CheckRequest
import LineWidth.Proofs.SettingLayers
import LineWidth.Proofs.SurveyRun
import LineWidth.Proofs.SurveyAccount
import LineWidth.Proofs.CheckRun
import LineWidth.Proofs.Switches
import LineWidth.Proofs.CommentWrapping
import LineWidth.Proofs.CommentLines
import LineWidth.Proofs.TabWidths
import LineWidth.Proofs.MappingOutcome
import LineWidth.Proofs.Emission
import LineWidth.Proofs.SettingSpellings
import LineWidth.Proofs.FaultFreedom
import LineWidth.Proofs.DiscoveredFiles
import LineWidth.Proofs.LexerFlags
import LineWidth.Proofs.PrimitiveForms
import LineWidth.Proofs.SearchRange
import LineWidth.Proofs.TokenClasses
