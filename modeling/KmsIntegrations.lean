import KmsIntegrations.Common.Status
import KmsIntegrations.Kmsp11.Basic
import KmsIntegrations.Kmsp11.StdSort
import KmsIntegrations.Kmsp11.HandleMap
import KmsIntegrations.Kmsp11.HandleMapRun
import KmsIntegrations.Kmsp11.ObjectStore
import KmsIntegrations.Kmsp11.Builder
import KmsIntegrations.Kmsp11.LoadState
import KmsIntegrations.Kmsp11.Returns
import KmsIntegrations.Kmsp11.LoadObjects
import KmsIntegrations.Kmsp11.Token
import KmsIntegrations.Kmsp11.TokenNew
import KmsIntegrations.Kmsp11.FakeKms
import KmsIntegrations.Kmscng.Bridge
import KmsIntegrations.Kmscng.BufferQuery
import KmsIntegrations.Kmscng.CheckOrder
import KmsIntegrations.Kmscng.OutPointers
