import ManifestDeps.Main
import ManifestDeps.Proofs.AccountingTheorems
import ManifestDeps.Proofs.BatchTheorems
import ManifestDeps.Proofs.DetectionTheorems
import ManifestDeps.Proofs.DirectoryTheorems
import ManifestDeps.Proofs.DiscoveryTheorems
import ManifestDeps.Proofs.HistoryTheorems
import ManifestDeps.Proofs.InheritanceTheorems
import ManifestDeps.Proofs.IsolationTheorems
import ManifestDeps.Proofs.JournalTheorems
import ManifestDeps.Proofs.LoadingTheorems
import ManifestDeps.Proofs.MemberOrderTheorems
import ManifestDeps.Proofs.MessageTheorems
import ManifestDeps.Proofs.ModelClassTheorems
import ManifestDeps.Proofs.NullTheorems
import ManifestDeps.Proofs.ODataVersionTheorems
import ManifestDeps.Proofs.PrintingTheorems
import ManifestDeps.Proofs.RepetitionTheorems
import ManifestDeps.Proofs.ReportTheorems
import ManifestDeps.Proofs.RootViewTheorems
import ManifestDeps.Proofs.RoundTripTheorems
import ManifestDeps.Proofs.RuleSafetyTheorems
import ManifestDeps.Proofs.SeparateBatchTheorems
import ManifestDeps.Proofs.SettingsFailureTheorems
import ManifestDeps.Proofs.SettingsFileTheorems
import ManifestDeps.Proofs.SettingsSourceTheorems
import ManifestDeps.Proofs.SettingsStabilityTheorems
import ManifestDeps.Proofs.ShapeTheorems
import ManifestDeps.Proofs.SiblingTheorems
import ManifestDeps.Proofs.SinkTheorems
import ManifestDeps.Proofs.StrengthTheorems
import ManifestDeps.Proofs.TaskBatchTheorems
import ManifestDeps.Proofs.UnreadFieldTheorems
import ManifestDeps.Proofs.UnreadMemberTheorems
